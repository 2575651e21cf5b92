/-
Replays. An operation that succeeded leaves a mark on the books, and no later operation removes
it. The same operation, sent again for the same reservation, review, usage event or refund and
with whatever payload, finds the mark and changes nothing.
-/
import Xscope.Billing.Reviews
import Xscope.Payments.Credits

namespace Xscope

variable (digests : Digests)

/-! ## Success, repetition and marks -/

/-- The transaction succeeds. -/
def Succeeds {α : Type} (x : DbTx α) (db : Db) : Bool := match x db with
  | .ok _ => true
  | .error _ => false

theorem Succeeds.ok {α : Type} {x : DbTx α} {db : Db} (h : Succeeds x db = true) : ∃ r, x db = .ok r := by
  unfold Succeeds at h
  cases hx : x db with
  | ok r => exact ⟨r, rfl⟩
  | error e => rw [hx] at h; cases h

/-- The id of the payment a trade is credited as. -/
def tradePayment (provider : Alipay) (trade : VerifiedTrade) : String :=
  "alipay-" ++ digests.sha256 (provider.profile ++ ":" ++ trade.tradeId)

/-- The operation succeeds: the operations whose requests are replayed. -/
def Op.succeeds : Op → Db → Bool
  | .reserve call request, db => Succeeds (reserveMoney call request) db
  | .dispatch call project id, db => Succeeds (dispatchMoney call project id) db
  | .release call project id request, db => Succeeds (releaseMoney call project id request) db
  | .settle call project id request, db => Succeeds (settleMoney call project id request) db
  | .unresolved call project id request, db => Succeeds (unresolvedMoney call project id request) db
  | .submitEvidence call project reservationId actor subject request, db =>
    Succeeds (submitBillingEvidence digests call project reservationId actor subject request) db
  | .submitWaiver call project reservationId actor subject request, db =>
    Succeeds (submitBillingWaiver digests call project reservationId actor subject request) db
  | .decideReview call project id actor subject request, db =>
    Succeeds (decideBillingReview call project id actor subject request) db
  | .recordUsage call event, db => match (Xscope.recordUsage call event db).1 with
    | .ok _ => true
    | .error _ => false
  | .prepareRefund call request provider, db => Succeeds (prepareAlipayRefund call request provider) db
  | .completeRefund call provider proof, db => Succeeds (completeAlipayRefund digests call provider proof) db
  | .acceptTrade call provider trade, db => Succeeds (acceptAlipayTrade digests call provider trade) db
  | _, _ => false

/-- A submission of either kind under the id. -/
def Op.Submits (op : Op) (id : String) : Prop :=
  (∃ call project reservationId actor subject request,
    op = .submitEvidence call project reservationId actor subject request ∧ request.id = id) ∨
  ∃ call project reservationId actor subject request,
    op = .submitWaiver call project reservationId actor subject request ∧ request.id = id

/-- `again` is the same operation for the same reservation, review, usage event or refund, with any
payload and at any time; for a trade, with the same trade. -/
def Op.Repeats (again : Op) : Op → Prop
  | .reserve _ request => ∃ call request', again = .reserve call request' ∧ request'.id = request.id
  | .dispatch _ _ id => ∃ call project, again = .dispatch call project id
  | .release _ _ id _ => ∃ call project request', again = .release call project id request'
  | .settle _ _ id _ => ∃ call project request', again = .settle call project id request'
  | .unresolved _ _ id _ => ∃ call project request', again = .unresolved call project id request'
  | .submitEvidence _ _ _ _ _ request => again.Submits request.id
  | .submitWaiver _ _ _ _ _ request => again.Submits request.id
  | .decideReview _ _ id _ _ _ =>
    ∃ call project actor subject request', again = .decideReview call project id actor subject request'
  | .recordUsage _ event => ∃ call event', again = .recordUsage call event' ∧ event'.eventId = event.eventId
  | .prepareRefund _ request _ =>
    ∃ call request' provider, again = .prepareRefund call request' provider ∧ request'.id = request.id
  | .completeRefund _ _ proof =>
    ∃ call provider proof', again = .completeRefund call provider proof' ∧ proof'.requestId = proof.requestId
  | .acceptTrade _ provider trade => ∃ call, again = .acceptTrade call provider trade
  | _ => False

/-- What a successful operation leaves. -/
def Op.Mark (b : Books) : Op → Prop
  | .reserve _ request => ∃ r ∈ b.reservations, r.id = request.id
  | .dispatch _ _ id => ∃ r ∈ b.reservations, r.id = id ∧ r.state ≠ .reserved
  | .release _ _ id _ => ∃ r ∈ b.reservations, r.id = id ∧ r.state = .released
  | .settle _ _ id _ => ∃ r ∈ b.reservations, r.id = id ∧ r.state = .settled
  | .unresolved _ _ id _ => ∃ r ∈ b.reservations, r.id = id ∧ r.Reported
  | .submitEvidence _ _ _ _ _ request => ∃ v ∈ b.reviews, v.id = request.id
  | .submitWaiver _ _ _ _ _ request => ∃ v ∈ b.reviews, v.id = request.id
  | .decideReview _ _ id _ _ _ => ∃ v ∈ b.reviews, v.id = id ∧ v.state ≠ .submitted
  | .recordUsage _ event => ∃ u ∈ b.usageEvents, u.eventId = event.eventId
  | .prepareRefund _ request _ => ∃ r ∈ b.refunds, r.id = request.id
  | .completeRefund _ _ proof => ∃ r ∈ b.refunds, r.id = proof.requestId ∧ r.status = .succeeded
  | .acceptTrade _ provider trade => provider.environment ≠ "production" ∨ trade.paid = false ∨
    ∃ p ∈ b.payments, p.id = tradePayment digests provider trade
  | _ => False

/-- Nothing of the money changed. -/
structure Unmoved (db db' : Db) : Prop where
  reservations : db'.books.reservations = db.books.reservations
  usageEvents : db'.books.usageEvents = db.books.usageEvents
  transactions : db'.books.transactions = db.books.transactions
  entries : db'.books.entries = db.books.entries
  payments : db'.books.payments = db.books.payments
  refunds : db'.books.refunds = db.books.refunds
  reviews : db'.books.reviews = db.books.reviews
  reviewAudits : db'.books.reviewAudits = db.books.reviewAudits
  projections : db'.projections = db.projections

theorem Unmoved.refl (db : Db) : Unmoved db db := ⟨rfl, rfl, rfl, rfl, rfl, rfl, rfl, rfl, rfl⟩

theorem Unmoved.trans {a b c : Db} (h1 : Unmoved a b) (h2 : Unmoved b c) : Unmoved a c :=
  ⟨h2.reservations.trans h1.reservations, h2.usageEvents.trans h1.usageEvents, h2.transactions.trans h1.transactions,
    h2.entries.trans h1.entries, h2.payments.trans h1.payments, h2.refunds.trans h1.refunds,
      h2.reviews.trans h1.reviews,
    h2.reviewAudits.trans h1.reviewAudits, h2.projections.trans h1.projections⟩

/-! ## Marks stay -/

section Kept

variable {b b' : Books}

/-- Usage events and payments are never removed. -/
theorem Move.rows {k : Kind} (m : Move k b b') :
    (∀ u ∈ b.usageEvents, u ∈ b'.usageEvents) ∧ ∀ p ∈ b.payments, p ∈ b'.payments := by
  cases m with
  | registry g => exact ⟨fun u hu => by rw [g.usageEvents]; exact hu, fun p hp => by rw [g.payments]; exact hp⟩
  | settle call a r request amount us ha hp hr hs wf hin hout cost funds hi post =>
    obtain ⟨ts, es, rfl⟩ := post.eq
    exact ⟨fun u hu => (Table.mem_insert? hi).2 (.inr hu), fun p hp => hp⟩
  | usage call a e cost us ha hp unreserved priced funds hi post =>
    obtain ⟨ts, es, rfl⟩ := post.eq
    exact ⟨fun u hu => (Table.mem_insert? hi).2 (.inr hu), fun p hp => hp⟩
  | topUp call a o id provider reference currency key description ps ha hp ho hpend hfit hi post =>
    obtain ⟨ts, es, rfl⟩ := post.eq
    exact ⟨fun u hu => hu, fun p hp => (Table.mem_insert? hi).2 (.inr hp)⟩
  | refund call a o p row key description rs ha hp ho hpay hprov hrow hst hpos le limit funds hi post =>
    obtain ⟨ts, es, rfl⟩ := post.eq; exact ⟨fun u hu => hu, fun p hp => hp⟩
  | prepare call a o p row key description rs ha hp ho hpay hprov hrow hst hpos limit funds hi post =>
    obtain ⟨ts, es, rfl⟩ := post.eq; exact ⟨fun u hu => hu, fun p hp => hp⟩
  | complete call a o p row trade ha hp ho hpay hprov hrow hpid hst post =>
    obtain ⟨ts, es, rfl⟩ := post.eq; exact ⟨fun u hu => hu, fun p hp => hp⟩
  | _ => exact ⟨fun u hu => hu, fun p hp => hp⟩

theorem Moves.rows {ks : List Kind} (h : Moves ks b b') :
    (∀ u ∈ b.usageEvents, u ∈ b'.usageEvents) ∧ ∀ p ∈ b.payments, p ∈ b'.payments := by
  refine h.keeps (I := fun x => (∀ u ∈ b.usageEvents, u ∈ x.usageEvents) ∧ ∀ p ∈ b.payments, p ∈ x.payments) ?_
    ⟨fun u hu => hu, fun p hp => hp⟩
  rintro k - x x' m ⟨hu, hp⟩
  obtain ⟨hu', hp'⟩ := m.rows
  exact ⟨fun u h => hu' u (hu u h), fun p h => hp' p (hp p h)⟩

/-- No state leads back to a reserved one. -/
theorem ReservationState.not_reserved {s t : ReservationState} (h : Relation.ReflTransGen ReservationState.Next s t)
    (hs : s ≠ .reserved) : t ≠ .reserved := by
  induction h with
  | refl => exact hs
  | tail _ next _ => cases next <;> simp

/-- A replaced reservation is reported when the old one was not, or when the new one is. -/
theorem reported_put {old r : Reservation} (row : Reservation) (ho : old ∈ b.reservations) (hid : row.id = old.id)
    (hrow : old.Reported → row.Reported) (hr : r ∈ b.reservations) (h : r.Reported) :
    ∃ r' ∈ b.reservations.put row, r'.id = r.id ∧ r'.Reported := by
  by_cases e : r.id = old.id
  · have := Table.eq_of_key hr ho e
    subst this
    exact ⟨row, Table.mem_put.2 (.inr ⟨rfl, r, hr, hid.symm⟩), hid, hrow h⟩
  · exact ⟨r, Table.mem_put.2 (.inl ⟨hr, fun e' => e (e'.trans hid)⟩), rfl, h⟩

theorem Move.reported {k : Kind} (m : Move k b b') {r : Reservation} (hr : r ∈ b.reservations) (h : r.Reported) :
    ∃ r' ∈ b'.reservations, r'.id = r.id ∧ r'.Reported := by
  cases m with
  | registry g => exact ⟨r, by rw [g.reservations]; exact hr, rfl, h⟩
  | reserve now a request entry key amount rs ha hp wf hm hid hk hkid cost fresh unused funds budget hi =>
    exact ⟨r, (Table.mem_insert? hi).2 (.inr hr), rfl, h⟩
  | dispatch now x hx hs =>
    exact reported_put (dispatchedReservation now x) hx rfl (fun h => by simp [Reservation.Reported, hs] at h) hr h
  | release now x reason hx hs =>
    exact reported_put (releasedReservation now x reason) hx rfl (fun h => by simp [Reservation.Reported, hs] at h) hr h
  | report now x request hx hs =>
    refine reported_put (unresolvedReservation now x request) hx rfl (fun _ => .inr ⟨hs, ?_⟩) hr h
    simp [unresolvedReservation]
  | settle call a x request amount us ha hp hx hs wf hin hout cost funds hi post =>
    obtain ⟨ts, es, rfl⟩ := post.eq
    exact reported_put (settledReservation call.now x request amount) hx rfl (fun _ => .inl (.inl rfl)) hr h
  | waive now x hx hs => exact reported_put (waivedReservation now x) hx rfl (fun _ => .inl (.inr rfl)) hr h
  | usage call a e cost us ha hp unreserved priced funds hi post =>
    obtain ⟨ts, es, rfl⟩ := post.eq; exact ⟨r, hr, rfl, h⟩
  | topUp call a o id provider reference currency key description ps ha hp ho hpend hfit hi post =>
    obtain ⟨ts, es, rfl⟩ := post.eq; exact ⟨r, hr, rfl, h⟩
  | refund call a o p row key description rs ha hp ho hpay hprov hrow hst hpos le limit funds hi post =>
    obtain ⟨ts, es, rfl⟩ := post.eq; exact ⟨r, hr, rfl, h⟩
  | prepare call a o p row key description rs ha hp ho hpay hprov hrow hst hpos limit funds hi post =>
    obtain ⟨ts, es, rfl⟩ := post.eq; exact ⟨r, hr, rfl, h⟩
  | complete call a o p row trade ha hp ho hpay hprov hrow hpid hst post =>
    obtain ⟨ts, es, rfl⟩ := post.eq; exact ⟨r, hr, rfl, h⟩
  | _ => exact ⟨r, hr, rfl, h⟩

theorem Moves.reported {ks : List Kind} (h : Moves ks b b') {id : String}
    (hr : ∃ r ∈ b.reservations, r.id = id ∧ r.Reported) : ∃ r ∈ b'.reservations, r.id = id ∧ r.Reported := by
  refine h.keeps (I := fun x => ∃ r ∈ x.reservations, r.id = id ∧ r.Reported) ?_ hr
  rintro k - x x' m ⟨y, hy, rfl, hrep⟩
  obtain ⟨r', hr', hid, h'⟩ := m.reported hy hrep
  exact ⟨r', hr', hid, h'⟩

/-- The marks are about rows that stay, in states that are not left. -/
theorem Op.Mark.kept {op : Op} {ks : List Kind} (moves : Moves ks b b') (reviews : ReviewsKept b b')
    (h : op.Mark digests b) : op.Mark digests b' := by
  have review : ∀ id, (∃ v ∈ b.reviews, v.id = id) → ∃ v ∈ b'.reviews, v.id = id := by
    rintro id ⟨v, hv, rfl⟩
    obtain ⟨v', hv', c⟩ := reviews v hv
    exact ⟨v', hv', by cases c <;> rfl⟩
  have ended : ∀ id s, s.held = false → (∃ r ∈ b.reservations, r.id = id ∧ r.state = s) →
      ∃ r ∈ b'.reservations, r.id = id ∧ r.state = s := by
    rintro id s hs ⟨r, hr, rfl, rfl⟩
    obtain ⟨r', hr', c⟩ := moves.carried r hr
    have := c.ended hs
    exact ⟨r', hr', by rw [this], by rw [this]⟩
  -- one case for each mark: a state that is not left, or a row that stays
  cases op with
  | reserve call request =>
    obtain ⟨r, hr, hid⟩ := h
    obtain ⟨r', hr', c⟩ := moves.carried r hr
    exact ⟨r', hr', c.terms.id.trans hid⟩
  | dispatch call project id =>
    obtain ⟨r, hr, hid, hs⟩ := h
    obtain ⟨r', hr', c⟩ := moves.carried r hr
    exact ⟨r', hr', c.terms.id.trans hid, ReservationState.not_reserved c.leads hs⟩
  | release call project id request => exact ended id .released rfl h
  | settle call project id request => exact ended id .settled rfl h
  | unresolved call project id request => exact moves.reported h
  | submitEvidence call project reservationId actor subject request => exact review _ h
  | submitWaiver call project reservationId actor subject request => exact review _ h
  | decideReview call project id actor subject request =>
    obtain ⟨v, hv, hid, hs⟩ := h
    obtain ⟨v', hv', c⟩ := reviews v hv
    cases c with
    | same => exact ⟨v, hv', hid, hs⟩
    | decide approve actor request hsub => exact absurd hsub hs
  | recordUsage call event =>
    obtain ⟨u, hu, hid⟩ := h
    exact ⟨u, moves.rows.1 u hu, hid⟩
  | prepareRefund call request provider =>
    obtain ⟨r, hr, hid⟩ := h
    obtain ⟨r', hr', c⟩ := moves.refundsKept r hr
    exact ⟨r', hr', by cases c <;> exact hid⟩
  | completeRefund call provider proof =>
    obtain ⟨r, hr, hid, hs⟩ := h
    obtain ⟨r', hr', c⟩ := moves.refundsKept r hr
    cases c with
    | same => exact ⟨r, hr', hid, hs⟩
    | succeed now trade hpend => rw [hs] at hpend; cases hpend
  | acceptTrade call provider trade =>
    rcases h with h | h | ⟨p, hp, hid⟩
    · exact .inl h
    · exact .inr (.inl h)
    · exact .inr (.inr ⟨p, moves.rows.2 p hp, hid⟩)
  | _ => exact h.elim

end Kept

/-! ## A success leaves its mark -/

section Marks

variable {db : Db}

/-- The transaction of recorded usage answers that it stored nothing exactly when the event is there. -/
theorem storeUsage_answer {call : Call} {a : BillingAccount} {e : UsageEvent} {cost : Int} {r : Option Unit × Db}
    (g : Good db.books db.projections) (h : storeUsage call a e cost db = .ok r) :
    r.1 = none ↔ ∃ u ∈ db.books.usageEvents, u.eventId = e.eventId := by
  unfold storeUsage at h
  simp only [lockAccount_bind, findWhere_bind, Tx.reject_bind] at h
  obtain ⟨-, -, -, h⟩ := h
  obtain ⟨spend, s, h1, h2⟩ := Tx.bind_ok.1 h
  obtain ⟨p, hp, -⟩ := monthly_spec h1 g.shows (Calendar.firstOfMonth_idem _) (fun _ => rfl)
  simp only at hp
  subst hp
  rw [findById_bind] at h2
  cases hg : (Slot.usageEvents.get (db.withProjections p)).get? e.eventId with
  | some u =>
    rw [hg] at h2
    cases Tx.pure_ok.1 h2
    exact ⟨fun _ => ⟨u, Table.get?_mem hg, Table.get?_key hg⟩, fun _ => rfl⟩
  | none =>
    rw [hg] at h2
    simp only [insertRow_bind] at h2
    obtain ⟨-, us, hi, h2⟩ := h2
    obtain ⟨_, s, -, h4⟩ := Tx.bind_ok.1 h2
    obtain ⟨_, s, -, h6⟩ := Tx.bind_ok.1 h4
    cases Tx.pure_ok.1 h6
    constructor
    · intro e
      cases e
    · rintro ⟨u, hu, hid⟩
      exact absurd hid (Table.get?_none_iff.1 hg u hu)

theorem recordUsage_mark {call : Call} {e : UsageEvent} (g : Good db.books db.projections) {answer : Bool}
    (h : (recordUsage call e db).1 = .ok answer) :
    ∃ u ∈ (recordUsage call e db).2.books.usageEvents, u.eventId = e.eventId := by
  unfold recordUsage at h ⊢
  rcases Tx.commit_cases (priceUsage e) db with ⟨cost, s, h1, hc⟩ | ⟨err, -, hc⟩
  · rw [Session.bind_of_ok hc] at h ⊢
    obtain ⟨hs, priced⟩ := priceUsage_spec h1
    simp only at hs priced
    subst hs
    rcases Tx.commit_cases (ensureAccountForProject e.projectId) s with ⟨a, s', h2, hc'⟩ | ⟨err, -, hc'⟩
    · rw [Session.bind_of_ok hc'] at h ⊢
      obtain ⟨step, ⟨t, ht⟩, ha, hp⟩ := ensureAccountForProject_step g h2
      simp only at ht
      subst ht
      unfold storeOnce at h ⊢
      cases hs : storeUsage call a e cost (Slot.accounts.set t s) with
      | error err => rw [hs] at h; cases h
      | ok r =>
        obtain ⟨_ | ⟨⟩, s'⟩ := r
        · exact (storeUsage_answer (step.good g) hs).1 rfl
        · obtain ⟨us, hi, he⟩ := (storeUsage_step (step.good g) ha hp priced hs rfl).2
          refine ⟨recordedUsage call.now e cost, ?_, rfl⟩
          show _ ∈ s'.books.usageEvents
          rw [he]
          exact (Table.mem_insert? hi).2 (.inl rfl)
    · rw [Session.bind_of_error hc'] at h; cases h
  · rw [Session.bind_of_error hc] at h; cases h

theorem acceptAlipayTrade_mark {call : Call} {provider : Alipay} {trade : VerifiedTrade} {r : TradeOutcome × Db}
    (g : Good db.books db.projections) (h : acceptAlipayTrade digests call provider trade db = .ok r) :
    (Op.acceptTrade call provider trade).Mark digests r.2.books := by
  unfold acceptAlipayTrade at h
  simp only [findById_bind, Tx.expect_bind, Tx.reject_bind] at h
  obtain ⟨order, ho, checkout, -, -, h⟩ := h
  obtain ⟨_, s, h1, h2⟩ := Tx.bind_ok.1 h
  obtain ⟨receipt, horders⟩ := storeReceipt_step g h1
  split at h2
  · exact .inl ‹_›
  · split at h2
    · exact .inr (.inl ‹_›)
    · exact .inr (.inr (creditTrade_step (receipt.good g) (by rw [horders]; exact Table.get?_mem ho) h2).2)

theorem submitReview_mark {call : Call} {project reservationId actor subject : String} {submission : Submission}
    {r : BillingReview × Db} (h : submitReview digests call project reservationId actor subject submission db = .ok r) :
    ∃ v ∈ r.2.books.reviews, v.id = submission.id := by
  rcases submitReview_books h with ⟨eq, hv⟩ | ⟨reviews, audits, hi, ha, eq⟩
  · rw [eq]; exact hv
  · rw [eq]; exact ⟨_, (Table.mem_insert? hi).2 (.inl rfl), rfl⟩

theorem decideBillingReview_mark {call : Call} {project id actor subject : String} {request : DecisionRequest}
    {r : BillingReview × Db} (g : Good db.books db.projections)
    (h : decideBillingReview call project id actor subject request db = .ok r) :
    ∃ v ∈ r.2.books.reviews, v.id = id ∧ v.state ≠ .submitted := by
  rcases decideBillingReview_books g h with ⟨eq, -, hv⟩ | ⟨row, hrow, hid, -, -, b₁, audits, rejected, approved, -, eq⟩
  · rw [eq]; exact hv
  · have same : b₁.reviews = db.books.reviews := by
      by_cases he : request.action = "approve"
      · exact (approved he).reviews.1
      · rw [(rejected he).1]
    rw [eq]
    exact ⟨_, Table.mem_put.2 (.inr ⟨rfl, row, by rw [same]; exact hrow, rfl⟩), hid, decidedState_ne _ _⟩

/-- The mark of a transaction that succeeds. -/
theorem Succeeds.mark {α : Type} {x : DbTx α} (op : Op) (h : Succeeds x db = true)
    (hx : ∀ r, x db = .ok r → op.Mark digests r.2.books) : op.Mark digests (Tx.commit x db).2.books := by
  obtain ⟨r, hr⟩ := Succeeds.ok h
  rw [Tx.commit_of_ok hr]
  exact hx r hr

theorem Op.mark {op : Op} (g : Good db.books db.projections) (h : op.succeeds digests db = true) :
    op.Mark digests (op.run digests db).books := by
  cases op with
  | reserve call request =>
    exact Succeeds.mark digests (.reserve call request) h fun r hr => ⟨r.1, (reserveMoney_step g hr).2⟩
  | dispatch call project id =>
    refine Succeeds.mark digests (.dispatch call project id) h fun r hr => ?_
    obtain ⟨-, hm, hid, hs⟩ := dispatchMoney_step g hr
    exact ⟨r.1, hm, hid, by rw [hs]; simp⟩
  | release call project id request =>
    exact Succeeds.mark digests (.release call project id request) h fun r hr => ⟨r.1, (releaseMoney_step g hr).2⟩
  | settle call project id request =>
    exact Succeeds.mark digests (.settle call project id request) h fun r hr => ⟨r.1, (settleMoney_step g hr).2⟩
  | unresolved call project id request =>
    exact Succeeds.mark digests (.unresolved call project id request) h fun r hr => ⟨r.1, (unresolvedMoney_step g hr).2⟩
  | submitEvidence call project reservationId actor subject request =>
    refine Succeeds.mark digests (.submitEvidence call project reservationId actor subject request) h fun r hr => ?_
    unfold submitBillingEvidence at hr
    exact submitReview_mark digests (checkRequest_bind.1 hr).2
  | submitWaiver call project reservationId actor subject request =>
    refine Succeeds.mark digests (.submitWaiver call project reservationId actor subject request) h fun r hr => ?_
    unfold submitBillingWaiver at hr
    exact submitReview_mark digests (checkRequest_bind.1 hr).2
  | decideReview call project id actor subject request =>
    exact Succeeds.mark digests (.decideReview call project id actor subject request) h fun r hr =>
      decideBillingReview_mark g hr
  | recordUsage call event =>
    unfold Op.succeeds at h
    cases ha : (Xscope.recordUsage call event db).1 with
    | ok answer => exact recordUsage_mark g ha
    | error e => simp [ha] at h
  | prepareRefund call request provider =>
    exact Succeeds.mark digests (.prepareRefund call request provider) h fun r hr => (prepareAlipayRefund_step g hr).2
  | completeRefund call provider proof =>
    exact Succeeds.mark digests (.completeRefund call provider proof) h fun r hr => (completeAlipayRefund_step g hr).2
  | acceptTrade call provider trade =>
    exact Succeeds.mark digests (.acceptTrade call provider trade) h fun r hr => acceptAlipayTrade_mark digests g hr
  | _ => cases h

end Marks

/-! ## A marked operation changes nothing -/

section Replays

variable {db : Db}

theorem reserveMoney_replay {call : Call} {request : ReserveRequest}
    (mark : ∃ r ∈ db.books.reservations, r.id = request.id) {r : Reservation × Db}
    (h : reserveMoney call request db = .ok r) : Unmoved db r.2 := by
  obtain ⟨x, hx, hid⟩ := mark
  unfold reserveMoney at h
  simp only [Tx.reject_bind, lockAccount_bind, findById_bind] at h
  obtain ⟨-, a, -, -, h⟩ := h
  rw [show (Slot.reservations.get db).get? request.id = some x from Table.get?_some_iff.2 ⟨hx, hid⟩] at h
  simp only [Tx.reject_bind] at h
  cases Tx.pure_ok.1 h.2
  exact .refl db

theorem dispatchMoney_replay {call : Call} {project id : String}
    (mark : ∃ r ∈ db.books.reservations, r.id = id ∧ r.state ≠ .reserved) {r : Reservation × Db}
    (h : dispatchMoney call project id db = .ok r) : Unmoved db r.2 := by
  obtain ⟨x, hx, hid, hs⟩ := mark
  unfold dispatchMoney at h
  simp only [lockAccount_bind, findReservation_bind] at h
  obtain ⟨a, -, row, hr, hrid, -, h⟩ := h
  have := Table.eq_of_key hr hx (hrid.trans hid.symm)
  subst this
  split at h
  · cases Tx.pure_ok.1 h; exact .refl db
  · -- only a reserved request may be dispatched
    simp only [Tx.reject_bind, not_not] at h
    exact absurd h.1 hs

theorem releaseMoney_replay {call : Call} {project id : String} {request : ReleaseRequest}
    (mark : ∃ r ∈ db.books.reservations, r.id = id ∧ r.state = .released) {r : Reservation × Db}
    (h : releaseMoney call project id request db = .ok r) : Unmoved db r.2 := by
  obtain ⟨x, hx, hid, hs⟩ := mark
  unfold releaseMoney at h
  simp only [Tx.reject_bind, lockAccount_bind, findReservation_bind] at h
  obtain ⟨-, a, -, row, hr, hrid, -, h⟩ := h
  have := Table.eq_of_key hr hx (hrid.trans hid.symm)
  subst this
  rw [if_pos hs] at h
  cases Tx.pure_ok.1 h
  exact .refl db

theorem settleMoney_replay {call : Call} {project id : String} {request : SettleRequest}
    (mark : ∃ r ∈ db.books.reservations, r.id = id ∧ r.state = .settled) {r : Reservation × Db}
    (h : settleMoney call project id request db = .ok r) : Unmoved db r.2 := by
  obtain ⟨x, hx, hid, hs⟩ := mark
  unfold settleMoney settleLocked at h
  simp only [lockAccount_bind, findReservation_bind, Tx.reject_bind] at h
  obtain ⟨a, -, row, hr, hrid, -, -, h⟩ := h
  have := Table.eq_of_key hr hx (hrid.trans hid.symm)
  subst this
  rw [if_pos hs] at h
  simp only [Tx.reject_bind] at h
  cases Tx.pure_ok.1 h.2
  exact .refl db

theorem unresolvedMoney_replay {call : Call} {project id : String} {request : UnresolvedRequest}
    (mark : ∃ r ∈ db.books.reservations, r.id = id ∧ r.Reported) {r : Reservation × Db}
    (h : unresolvedMoney call project id request db = .ok r) : Unmoved db r.2 := by
  obtain ⟨x, hx, hid, hs⟩ := mark
  unfold unresolvedMoney at h
  simp only [Tx.reject_bind, lockAccount_bind, findReservation_bind] at h
  obtain ⟨-, a, -, row, hr, hrid, -, h⟩ := h
  have := Table.eq_of_key hr hx (hrid.trans hid.symm)
  subst this
  split at h
  · cases Tx.pure_ok.1 h; exact .refl db
  · rename_i hne
    obtain ⟨-, hc⟩ := hs.resolve_left hne
    simp only [Tx.reject_bind] at h
    obtain ⟨-, h⟩ := h
    cases hcomp : row.completion with
    | none => exact absurd hcomp hc
    | some previous =>
      rw [hcomp] at h
      simp only [Tx.reject_bind] at h
      cases Tx.pure_ok.1 h.2
      exact .refl db

theorem submitReview_replay {call : Call} {project reservationId actor subject : String} {submission : Submission}
    (mark : ∃ v ∈ db.books.reviews, v.id = submission.id) {r : BillingReview × Db}
    (h : submitReview digests call project reservationId actor subject submission db = .ok r) : Unmoved db r.2 := by
  obtain ⟨x, hx, hid⟩ := mark
  unfold submitReview at h
  simp only [lockAccount_bind, findById_bind] at h
  obtain ⟨a, -, h⟩ := h
  rw [show (Slot.reviews.get db).get? submission.id = some x from Table.get?_some_iff.2 ⟨hx, hid⟩] at h
  simp only [Tx.reject_bind] at h
  cases Tx.pure_ok.1 h.2
  exact .refl db

theorem Submits_replay {again : Op} {id : String} (mark : ∃ v ∈ db.books.reviews, v.id = id) (h : again.Submits id) :
    Unmoved db (again.run digests db) := by
  rcases h with ⟨call, project, reservationId, actor, subject, request, rfl, hid⟩ |
    ⟨call, project, reservationId, actor, subject, request, rfl, hid⟩
  · refine Tx.commit_run (P := Unmoved db) (.refl db) fun r hr => ?_
    unfold submitBillingEvidence at hr
    exact submitReview_replay digests (by rw [← hid] at mark; exact mark) (checkRequest_bind.1 hr).2
  · refine Tx.commit_run (P := Unmoved db) (.refl db) fun r hr => ?_
    unfold submitBillingWaiver at hr
    exact submitReview_replay digests (by rw [← hid] at mark; exact mark) (checkRequest_bind.1 hr).2

theorem decideBillingReview_replay {call : Call} {project id actor subject : String} {request : DecisionRequest}
    (mark : ∃ v ∈ db.books.reviews, v.id = id ∧ v.state ≠ .submitted) {r : BillingReview × Db}
    (h : decideBillingReview call project id actor subject request db = .ok r) : Unmoved db r.2 := by
  obtain ⟨x, hx, hid, hs⟩ := mark
  unfold decideBillingReview at h
  simp only [Tx.reject_bind, lockAccount_bind, findById_bind, Tx.expect_bind] at h
  obtain ⟨-, a, -, row, hrow, -, -, h⟩ := h
  obtain ⟨hget, -⟩ := Option.filter_eq_some_iff.1 hrow
  have := Table.eq_of_key (Table.get?_mem hget) hx ((Table.get?_key hget).trans hid.symm)
  subst this
  rw [if_pos hs] at h
  simp only [Tx.reject_bind] at h
  cases Tx.pure_ok.1 h.2
  exact .refl db

theorem recordUsage_replay {call : Call} {e : UsageEvent} (g : Good db.books db.projections)
    (mark : ∃ u ∈ db.books.usageEvents, u.eventId = e.eventId) : Unmoved db (recordUsage call e db).2 := by
  unfold recordUsage
  rcases Tx.commit_cases (priceUsage e) db with ⟨cost, s, h1, hc⟩ | ⟨err, -, hc⟩
  · rw [Session.bind_of_ok hc]
    obtain ⟨hs, -⟩ := priceUsage_spec h1
    simp only at hs
    subst hs
    rcases Tx.commit_cases (ensureAccountForProject e.projectId) s with ⟨a, s', h2, hc'⟩ | ⟨err, -, hc'⟩
    · rw [Session.bind_of_ok hc']
      obtain ⟨step, ⟨t, ht⟩, -, -⟩ := ensureAccountForProject_step g h2
      simp only at ht
      subst ht
      have account : Unmoved s (Slot.accounts.set t s) := ⟨rfl, rfl, rfl, rfl, rfl, rfl, rfl, rfl, rfl⟩
      refine account.trans ?_
      unfold storeOnce
      cases hs : storeUsage call a e cost (Slot.accounts.set t s) with
      | error err => exact .refl _
      | ok r =>
        -- a known event is rolled back
        have known := (storeUsage_answer (step.good g) hs).2 mark
        obtain ⟨_ | ⟨⟩, s'⟩ := r
        · exact .refl _
        · cases known
    · rw [Session.bind_of_error hc']; exact .refl _
  · rw [Session.bind_of_error hc]; exact .refl _

theorem prepareAlipayRefund_replay {call : Call} {request : CreateRefundRequest} {provider : Alipay}
    (mark : ∃ r ∈ db.books.refunds, r.id = request.id) {r : RefundOutcome × Db}
    (h : prepareAlipayRefund call request provider db = .ok r) : Unmoved db r.2 := by
  obtain ⟨x, hx, hid⟩ := mark
  unfold prepareAlipayRefund checkProviderAmount at h
  simp only [Tx.reject_bind, findById_bind, Tx.expect_bind] at h
  obtain ⟨-, -, payment, -, order, -, checkout, -, -, h⟩ := h
  rw [show (Slot.refunds.get db).get? request.id = some x from Table.get?_some_iff.2 ⟨hx, hid⟩] at h
  simp only [Tx.reject_bind] at h
  cases Tx.pure_ok.1 h.2
  exact .refl db

theorem completeAlipayRefund_replay {call : Call} {provider : Alipay} {proof : VerifiedRefund}
    (mark : ∃ r ∈ db.books.refunds, r.id = proof.requestId ∧ r.status = .succeeded) {r : RefundOutcome × Db}
    (h : completeAlipayRefund digests call provider proof db = .ok r) : Unmoved db r.2 := by
  obtain ⟨x, hx, hid, hs⟩ := mark
  unfold completeAlipayRefund at h
  simp only [findById_bind, Tx.expect_bind, Tx.reject_bind] at h
  obtain ⟨row, hrow, payment, -, order, -, checkout, -, -, h⟩ := h
  have := Table.eq_of_key (Table.get?_mem hrow) hx ((Table.get?_key hrow).trans hid.symm)
  subst this
  rw [if_pos hs] at h
  cases Tx.pure_ok.1 h
  exact .refl db

theorem acceptAlipayTrade_replay {call call' : Call} {provider : Alipay} {trade : VerifiedTrade}
    (mark : (Op.acceptTrade call' provider trade).Mark digests db.books) {r : TradeOutcome × Db}
    (h : acceptAlipayTrade digests call provider trade db = .ok r) : Unmoved db r.2 := by
  unfold acceptAlipayTrade at h
  simp only [findById_bind, Tx.expect_bind, Tx.reject_bind] at h
  obtain ⟨order, -, checkout, -, -, h⟩ := h
  obtain ⟨_, s, h1, h2⟩ := Tx.bind_ok.1 h
  -- the receipt is no part of the money
  have receipt : ∃ t, s = Slot.receipts.set t db := by
    unfold storeReceipt at h1
    rw [findById_bind] at h1
    cases hg : (Slot.receipts.get db).get? (digests.sha256 (provider.profile ++ ":" ++ order.id ++ ":" ++
      trade.proofSha256)) with
    | some existing => rw [hg] at h1; cases Tx.pure_ok.1 h1; exact ⟨_, rfl⟩
    | none => rw [hg] at h1; obtain ⟨-, t, -, h1⟩ := insertRow_ok.1 h1; cases h1; exact ⟨t, rfl⟩
  obtain ⟨t, rfl⟩ := receipt
  have stored : Unmoved db (Slot.receipts.set t db) := ⟨rfl, rfl, rfl, rfl, rfl, rfl, rfl, rfl, rfl⟩
  refine stored.trans ?_
  split at h2
  · cases Tx.pure_ok.1 h2; exact .refl _
  · rename_i hprod
    split at h2
    · obtain ⟨_, s', h3, h4⟩ := Tx.bind_ok.1 h2
      cases Tx.pure_ok.1 h4
      unfold noteUnpaid at h3
      split at h3
      · cases updateRow_ok.1 h3
        exact ⟨rfl, rfl, rfl, rfl, rfl, rfl, rfl, rfl, rfl⟩
      · cases Tx.pure_ok.1 h3; exact .refl _
    · rename_i hpaid
      -- a paid trade in production was credited before
      obtain ⟨p, hp, hid⟩ := (mark.resolve_left hprod).resolve_left hpaid
      unfold creditTrade at h2
      rw [findById_bind, show (Slot.payments.get (Slot.receipts.set t db)).get?
        ("alipay-" ++ digests.sha256 (provider.profile ++ ":" ++ trade.tradeId)) = some p from
          Table.get?_some_iff.2 ⟨hp, hid⟩] at h2
      simp only [Tx.reject_bind] at h2
      cases Tx.pure_ok.1 h2.2
      exact .refl _

/-- An operation whose mark is there changes nothing, with whatever payload it comes again. -/
theorem Op.Repeats.unmoved {op again : Op} (same : again.Repeats op) (g : Good db.books db.projections)
    (mark : op.Mark digests db.books) : Unmoved db (again.run digests db) := by
  cases op with
  | reserve call request =>
    obtain ⟨call', request', rfl, hid⟩ := same
    exact Tx.commit_run (P := Unmoved db) (.refl db) fun r hr => reserveMoney_replay (by rw [hid]; exact mark) hr
  | dispatch call project id =>
    obtain ⟨call', project', rfl⟩ := same
    exact Tx.commit_run (P := Unmoved db) (.refl db) fun r hr => dispatchMoney_replay mark hr
  | release call project id request =>
    obtain ⟨call', project', request', rfl⟩ := same
    exact Tx.commit_run (P := Unmoved db) (.refl db) fun r hr => releaseMoney_replay mark hr
  | settle call project id request =>
    obtain ⟨call', project', request', rfl⟩ := same
    exact Tx.commit_run (P := Unmoved db) (.refl db) fun r hr => settleMoney_replay mark hr
  | unresolved call project id request =>
    obtain ⟨call', project', request', rfl⟩ := same
    exact Tx.commit_run (P := Unmoved db) (.refl db) fun r hr => unresolvedMoney_replay mark hr
  | submitEvidence call project reservationId actor subject request => exact Submits_replay digests mark same
  | submitWaiver call project reservationId actor subject request => exact Submits_replay digests mark same
  | decideReview call project id actor subject request =>
    obtain ⟨call', project', actor', subject', request', rfl⟩ := same
    exact Tx.commit_run (P := Unmoved db) (.refl db) fun r hr => decideBillingReview_replay mark hr
  | recordUsage call event =>
    obtain ⟨call', event', rfl, hid⟩ := same
    exact recordUsage_replay g (by rw [hid]; exact mark)
  | prepareRefund call request provider =>
    obtain ⟨call', request', provider', rfl, hid⟩ := same
    exact Tx.commit_run (P := Unmoved db) (.refl db) fun r hr => prepareAlipayRefund_replay (by rw [hid]; exact mark) hr
  | completeRefund call provider proof =>
    obtain ⟨call', provider', proof', rfl, hid⟩ := same
    exact Tx.commit_run (P := Unmoved db) (.refl db) fun r hr =>
      completeAlipayRefund_replay digests (by rw [hid]; exact mark) hr
  | acceptTrade call provider trade =>
    obtain ⟨call', rfl⟩ := same
    exact Tx.commit_run (P := Unmoved db) (.refl db) fun r hr => acceptAlipayTrade_replay digests mark hr
  | _ => exact same.elim

end Replays

/-- Once an operation has succeeded, the same operation for the same reservation, review, usage
event or refund, and the same trade, leave all money as it is in every later state. -/
theorem Op.runAll_replay (before after : List Op) (op again : Op)
    (succeeded : op.succeeds digests (Op.runAll digests before Db.empty) = true) (same : again.Repeats op) :
    let db := Op.runAll digests (before ++ op :: after) Db.empty
    Unmoved db (again.run digests db) := by
  intro db
  have g₀ := Op.runAll_good digests before Good.empty
  have g₁ := (op.step digests g₀).good g₀
  have reviewed₀ := (Op.runAll_reviewed digests before Good.empty .empty).1
  have reviewed₁ := (op.reviewed digests g₀ reviewed₀).1
  have hdb : db = Op.runAll digests after (op.run digests (Op.runAll digests before Db.empty)) :=
    Op.runAll_append digests before (op :: after) _
  -- the mark of the success is there, and stays through what follows
  have mark : op.Mark digests db.books := by
    rw [hdb]
    exact Op.Mark.kept digests (Op.runAll_moves digests after g₁).moves
      (Op.runAll_reviewed digests after g₁ reviewed₁).2
      (Op.mark digests g₀ succeeded)
  exact same.unmoved digests (Op.runAll_good digests (before ++ op :: after) Good.empty) mark

/-- The sample settlement, sent again later with another payload. -/
theorem sample_replay :
    Unmoved (Op.runAll sampleDigests (sampleSetup ++ sampleRequestRun) Db.empty)
      ((Op.settle (sampleCall 9) "project" "r1" { sampleUsage with inputTokens := 5 }).run sampleDigests
        (Op.runAll sampleDigests (sampleSetup ++ sampleRequestRun) Db.empty)) :=
  Op.runAll_replay sampleDigests (sampleSetup ++ sampleRequestRun.take 2) []
    (.settle (sampleCall 4) "project" "r1" sampleUsage)
    _ (by decide +kernel) ⟨_, _, _, rfl⟩

end Xscope

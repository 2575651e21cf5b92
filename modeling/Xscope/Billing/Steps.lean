/-
What each operation does, for every state it can run in: the books move as `Moves` says, and the
projections go on showing the totals of the books. One lemma for each operation; a replay or a
refusal is the case where nothing moves.
-/
import Xscope.Billing.Moves

namespace Xscope

/-! ## The invariant of the database -/

/-- Every reservation and every usage event has its counters. -/
structure Covered (b : Books) (p : Projections) : Prop where
  reservations : ∀ r ∈ b.reservations,
    (∃ x, p.balances.get? r.billingAccountId = some x) ∧ ∃ x, p.keyHolds.get? r.apiKeyId = some x
  usageEvents : ∀ u ∈ b.usageEvents,
    ∃ x, p.monthSpends.get? (u.apiKeyId, Calendar.firstOfMonth (Calendar.ofTimestamp u.occurredAt)) = some x

/-- The books are sound, and the projections show and cover them. -/
structure Good (b : Books) (p : Projections) : Prop where
  owned : b.Owned
  shows : p.Shows b.totals
  covered : Covered b p

/-- The books moved by some kinds of moves, and the projections followed. -/
structure Step (ks : List Kind) (b : Books) (p : Projections) (b' : Books) (p' : Projections) : Prop where
  moves : Moves ks b b'
  shows : p'.Shows b'.totals
  covered : Covered b' p'

/-- The counters cover what they covered, as long as none is lost. -/
theorem Covered.keeps {b : Books} {p p' : Projections} (h : Covered b p) (k : p.Keeps p') : Covered b p' := by
  refine ⟨fun r hr => ?_, fun u hu => ?_⟩
  · obtain ⟨⟨x, hx⟩, ⟨y, hy⟩⟩ := h.reservations r hr
    exact ⟨k.balances _ x hx, k.keyHolds _ y hy⟩
  · obtain ⟨x, hx⟩ := h.usageEvents u hu
    exact k.months _ x hx

theorem Step.refl {b : Books} {p : Projections} (ks : List Kind) (g : Good b p) : Step ks b p b p :=
  ⟨Moves.refl ks b, g.shows, g.covered⟩

theorem Step.good {ks : List Kind} {b b' : Books} {p p' : Projections} (s : Step ks b p b' p')
    (g : Good b p) : Good b' p' :=
  ⟨s.moves.owned g.owned, s.shows, s.covered⟩

theorem Step.trans {ks : List Kind} {b b' b'' : Books} {p p' p'' : Projections} (s : Step ks b p b' p')
    (s' : Step ks b' p' b'' p'') : Step ks b p b'' p'' :=
  ⟨s.moves.trans s'.moves, s'.shows, s'.covered⟩

theorem Step.mono {ks ks' : List Kind} {b b' : Books} {p p' : Projections} (hk : ∀ k ∈ ks, k ∈ ks')
    (s : Step ks b p b' p') : Step ks' b p b' p' :=
  ⟨s.moves.mono hk, s.shows, s.covered⟩

/-- Records other than money change under the same counters. -/
theorem Step.registry {b b' : Books} {p : Projections} (h : Registry b b')
    (g : Good b p) : Step [.registry] b p b' p := by
  refine ⟨(Move.registry h).moves (by simp), ?_, ?_⟩
  · rw [h.totals]; exact g.shows
  · exact ⟨by rw [h.reservations]; exact g.covered.reservations, by rw [h.usageEvents]; exact g.covered.usageEvents⟩

/-- Tables no invariant of the money reads. -/
theorem Registry.clerical (b : Books) (projects : Table Project) (checkouts : Table PaymentCheckout)
    (receipts : Table ProviderReceipt) :
    Registry b { b with projects := projects, checkouts := checkouts, receipts := receipts } :=
  ⟨rfl, rfl, rfl, rfl, rfl, rfl, fun _ h => h, fun _ h => .inl h, fun _ h => .inl h, fun _ h => .inl h,
    fun _ _ h => h, fun _ h => .inl h, fun k h => ⟨k, h, rfl, rfl⟩, rfl, rfl⟩

/-- A clerical change after a step. -/
theorem Step.clerical {ks : List Kind} {b b' : Books} {p p' : Projections} (hk : .registry ∈ ks) (g : Good b p)
    (s : Step ks b p b' p') (projects : Table Project) (checkouts : Table PaymentCheckout)
    (receipts : Table ProviderReceipt) :
    Step ks b p { b' with projects := projects, checkouts := checkouts, receipts := receipts } p' :=
  s.trans ((Step.registry (.clerical b' projects checkouts receipts) (s.good g)).mono (by simpa using hk))

/-- Reviews are written after a step. -/
theorem Step.review {ks : List Kind} {b b' : Books} {p p' : Projections} (hk : .review ∈ ks) (s : Step ks b p b' p')
    (reviews : Table BillingReview) (audits : Table ReviewAudit) :
    Step ks b p { b' with reviews := reviews, reviewAudits := audits } p' :=
  ⟨s.moves.trans ((Move.review reviews audits).moves hk), s.shows, ⟨s.covered.reservations, s.covered.usageEvents⟩⟩

/-- Filling counters moves nothing. -/
theorem Step.fill {b : Books} {p p' : Projections} (ks : List Kind) (g : Good b p) (k : p.Keeps p')
    (hs : p'.Shows b.totals) : Step ks b p b p' :=
  ⟨Moves.refl ks b, hs, g.covered.keeps k⟩

/-! ## Reading rows -/

theorem account_of_find {db : Db} {project : String} {a : BillingAccount}
    (h : db.books.accounts.find (fun a => a.projectId == project) = some a) :
    a ∈ db.books.accounts ∧ a.projectId = project := by
  obtain ⟨hm, hp⟩ := Table.find_some h
  exact ⟨hm, by simpa using hp⟩

@[simp] theorem findReservation_bind {α : Type} {project id : String} {f : Reservation → DbTx α} {db : Db}
    {r : α × Db} :
    (findReservation project id >>= f) db = .ok r ↔
      ∃ row ∈ db.books.reservations, row.id = id ∧ row.projectId = project ∧ f row db = .ok r := by
  unfold findReservation
  rw [Tx.bind_ok]
  simp only [findById_bind, Tx.expect_ok, Option.filter_eq_some_iff]
  constructor
  · rintro ⟨row, s, ⟨⟨hg, hp⟩, rfl⟩, hf⟩
    obtain ⟨hm, hk⟩ := Table.get?_some_iff.1 hg
    exact ⟨row, hm, hk, by simpa using hp, hf⟩
  · rintro ⟨row, hm, hk, hp, hf⟩
    exact ⟨row, db, ⟨⟨Table.get?_some_iff.2 ⟨hm, hk⟩, by simpa using hp⟩, rfl⟩, hf⟩

/-- A replaced reservation keeps its account and key, so the counters still cover it. -/
theorem Covered.putReservation {b : Books} {p : Projections} {old row : Reservation} (h : Covered b p)
    (ho : old ∈ b.reservations) (terms : SameTerms old row) :
    Covered { b with reservations := b.reservations.put row } p := by
  refine ⟨fun r hr => ?_, h.usageEvents⟩
  rcases Table.mem_put.1 hr with ⟨hr, -⟩ | ⟨rfl, -⟩
  · exact h.reservations r hr
  · rw [terms.billingAccountId, terms.apiKeyId]; exact h.reservations old ho

/-- A single move of one reservation whose hold changes by `delta`, under counters moved by it. -/
theorem Step.putReservation {k : Kind} {b : Books} {p p' : Projections} {old row : Reservation}
    (m : Move k b { b with reservations := b.reservations.put row }) (g : Good b p) (ho : old ∈ b.reservations)
    (terms : SameTerms old row) (keep : p.Keeps p')
    (hs : p'.Shows (b.totals.addHold old.billingAccountId old.apiKeyId
      (row.state.holds old.reservedMicrounits - old.state.holds old.reservedMicrounits))) :
    Step [k] b p { b with reservations := b.reservations.put row } p' :=
  ⟨m.moves (by simp), by rw [totals_putReservation ho terms]; exact hs,
    (g.covered.keeps keep).putReservation ho terms⟩

theorem checkDomain_ok {α : Type} {e : Except DomainError α} {db : Db} {r : α × Db} :
    checkDomain e db = .ok r ↔ ∃ v, e = .ok v ∧ (v, db) = r := by
  unfold checkDomain
  cases e with
  | ok v => simp
  | error err => simp

@[simp] theorem checkDomain_bind {α β : Type} {e : Except DomainError α} {f : α → DbTx β} {db : Db} {r : β × Db} :
    (checkDomain e >>= f) db = .ok r ↔ ∃ v, e = .ok v ∧ f v db = .ok r := by
  unfold checkDomain
  cases e with
  | ok v => simp
  | error err => rw [Tx.bind_ok]; simp

@[simp] theorem checkRequest_bind {β : Type} {e : Except ServiceError Unit} {f : Unit → DbTx β} {db : Db} {r : β × Db} :
    (checkRequest e >>= f) db = .ok r ↔ e = .ok () ∧ f () db = .ok r := by
  unfold checkRequest
  cases e with
  | ok v => simp
  | error err => rw [Tx.bind_ok]; simp

/-! ## Postings -/

theorem not_all_neg {o : Option Int} :
    ¬(o.all fun v => decide (v < 0)) = true ↔ ∃ v, o = some v ∧ 0 ≤ v := by
  cases o with
  | none => simp
  | some v => simp

theorem balanceAndHeld_spec {id : String} {t : Totals} {db : Db} {r : (Int × Int) × Db}
    (h : balanceAndHeld id db = .ok r) (hs : db.projections.Shows t)
    (ht : db.projections.balances.get? id = none → t.balance id = db.books.balance id ∧ t.held id = db.books.held id) :
    ∃ p, r = ((t.balance id, t.held id), db.withProjections p) ∧ p.Shows t ∧ db.projections.Keeps p ∧
      (∃ x, p.balances.get? id = some x) ∧ p.keyHolds = db.projections.keyHolds ∧
      p.monthSpends = db.projections.monthSpends := by
  unfold balanceAndHeld at h
  obtain ⟨row, s, h1, h2⟩ := Tx.bind_ok.1 h
  obtain ⟨p, rfl, hp, keep, hrow, hk, hm⟩ := account_spec h1 hs ht
  cases Tx.pure_ok.1 h2
  obtain ⟨hmem, hid⟩ := Table.get?_some_iff.1 hrow
  change row.billingAccountId = id at hid
  subst hid
  obtain ⟨eb, eh, -, -⟩ := hp.balances row hmem
  exact ⟨p, by rw [eb, eh], hp, keep, ⟨row, hrow⟩, hk, hm⟩

theorem guardDebit_spec {a : BillingAccount} {delta : Int} {t : Totals} {db : Db} {r : Unit × Db}
    (h : guardDebit a delta db = .ok r) (hs : db.projections.Shows t)
    (ht : db.projections.balances.get? a.id = none →
      t.balance a.id = db.books.balance a.id ∧ t.held a.id = db.books.held a.id) :
    ∃ p, r.2 = db.withProjections p ∧ p.Shows t ∧ db.projections.Keeps p ∧ p.keyHolds = db.projections.keyHolds ∧
      p.monthSpends = db.projections.monthSpends ∧
      (delta < 0 → Funded a (t.balance a.id - t.held a.id + delta)) := by
  unfold guardDebit at h
  split at h
  · rename_i hc
    obtain ⟨⟨b, e⟩, s, h1, h2⟩ := Tx.bind_ok.1 h
    obtain ⟨p, hr, hp, keep, -, hk, hm⟩ := balanceAndHeld_spec h1 hs ht
    cases hr
    simp only [Tx.reject_ok, not_all_neg] at h2
    obtain ⟨⟨v, hv, hv0⟩, rfl⟩ := h2
    refine ⟨p, rfl, hp, keep, hk, hm, fun _ _ => ?_⟩
    obtain ⟨u, hu, hv⟩ := Option.bind_eq_some_iff.1 hv
    rw [(checkedSub_some.1 hu).1, (checkedAdd_some.1 hv).1]
    exact hv0
  · rename_i hc
    cases Tx.pure_ok.1 h
    exact ⟨_, rfl, hs, .refl _, rfl, rfl, fun hd he => absurd ⟨hd, he⟩ hc⟩

theorem insertBalancedEntries_spec {call : Call} {a : BillingAccount} {post : Posting} {t : Totals} {db : Db}
    {r : Unit × Db} (h : insertBalancedEntries call a post db = .ok r) (hs : db.projections.Shows t)
    (hu : ∀ x ∈ db.books.accounts, x.projectId = a.projectId → x = a)
    (ht : db.projections.balances.get? a.id = none →
      t.balance a.id = db.books.balance a.id ∧ t.held a.id = db.books.held a.id) :
    ∃ b' p o, r.2 = ⟨b', p, o⟩ ∧ Posted call a post db.books b' ∧ p.Shows (t.addBalance a.id post.customerDelta) ∧
      db.projections.Keeps p ∧ p.keyHolds = db.projections.keyHolds ∧ p.monthSpends = db.projections.monthSpends ∧
      (post.customerDelta < 0 → Funded a (t.balance a.id - t.held a.id + post.customerDelta)) ∧
      Outbox.Appended a.id db.outbox o := by
  unfold insertBalancedEntries at h
  simp only [Tx.reject_bind, lockAccount_bind] at h
  obtain ⟨-, a', ha', h⟩ := h
  obtain ⟨hm, hp⟩ := account_of_find ha'
  cases hu a' hm hp
  obtain ⟨_, s, h1, h2⟩ := Tx.bind_ok.1 h
  obtain ⟨p, hp1, hs1, keep1, hk1, hm1, funds⟩ := guardDebit_spec h1 hs ht
  simp only at hp1
  subst hp1
  obtain ⟨_, s, h3, h4⟩ := Tx.bind_ok.1 h2
  obtain ⟨q, hq, hs2, keep2, -, hk2, hm2⟩ := changeBalance_spec h3 hs1 fun hg => ht (keep1.missing hg)
  simp only at hq
  subst hq
  simp only [insertRow_bind] at h4
  obtain ⟨fresh, ts, hts, -, es, hes, -, es', hes', h5⟩ := h4
  obtain ⟨o, ho, appended⟩ := appendEvent_ok h5
  refine ⟨_, q, o, ho, ⟨fun x hx => ?_, ts, es, es', hts, hes, hes', rfl⟩, hs2, keep1.trans keep2, hk2.trans hk1,
    hm2.trans hm1, funds, appended⟩
  have := fresh x hx
  simp only [Slot.transactions, beq_eq_false_iff_ne] at this
  exact fun e => this e.symm

/-- A charge: its posting when there is something to charge, and the counters follow the books. -/
theorem postCharge_spec {amount : Int} {call : Call} {a : BillingAccount} {post : Posting} {db : Db}
    {r : Unit × Db} (h : postCharge call a amount post db = .ok r) (hs : db.projections.Shows db.books.totals)
    (hu : ∀ x ∈ db.books.accounts, x.projectId = a.projectId → x = a) (hc : post.counterAccount ≠ .customerBalance) :
    ∃ b' p o, r.2 = ⟨b', p, o⟩ ∧ Charged call a amount post db.books b' ∧ p.Shows b'.totals ∧ db.projections.Keeps p ∧
      (0 < amount → post.customerDelta < 0 →
        Funded a (db.books.balance a.id - db.books.held a.id + post.customerDelta)) := by
  unfold postCharge at h
  split at h
  · rename_i hpos
    obtain ⟨b', p, o, hr, posted, hp, keep, -, -, funds, -⟩ :=
      insertBalancedEntries_spec h hs hu (fun _ => ⟨rfl, rfl⟩)
    exact ⟨b', p, o, hr, .inl ⟨hpos, posted⟩, by rw [posted.totals hc]; exact hp, keep, fun _ => funds⟩
  · rename_i hpos
    cases Tx.pure_ok.1 h
    exact ⟨_, _, _, rfl, .inr ⟨hpos, rfl⟩, hs, .refl _, fun h => absurd h hpos⟩

theorem Journal.covered {txn : LedgerTransaction} {e₁ e₂ : LedgerEntry} {b b' : Books} {p : Projections}
    (h : Journal txn e₁ e₂ b b') (hc : Covered b p) : Covered b' p := by
  obtain ⟨ts, es, rfl⟩ := h.eq
  exact ⟨hc.reservations, hc.usageEvents⟩

theorem Charged.covered {amount : Int} {call : Call} {a : BillingAccount} {post : Posting} {b b' : Books}
    {p : Projections} (h : Charged call a amount post b b') (hc : Covered b p) : Covered b' p := by
  rcases h with ⟨-, posted⟩ | ⟨-, rfl⟩
  · exact posted.covered hc
  · exact hc

/-- A usage event is covered by the month counter that was read for it. -/
theorem Covered.insertUsage {b : Books} {p : Projections} {us : Table UsageRow} {row : UsageRow} (h : Covered b p)
    (hi : b.usageEvents.insert? row = some us)
    (hm : ∃ x, p.monthSpends.get? (row.apiKeyId, Calendar.firstOfMonth (Calendar.ofTimestamp row.occurredAt)) =
    some x) :
    Covered { b with usageEvents := us } p := by
  refine ⟨h.reservations, fun u hu => ?_⟩
  rcases (Table.mem_insert? hi).1 hu with rfl | hu
  · exact hm
  · exact h.usageEvents u hu

/-! ## The protocol of a reservation -/

section Reservation

variable {db : Db} {call : Call} {project id : String}

theorem dispatchMoney_step {r : Reservation × Db} (g : Good db.books db.projections)
    (h : dispatchMoney call project id db = .ok r) :
    Step [.dispatch] db.books db.projections r.2.books r.2.projections ∧
      r.1 ∈ r.2.books.reservations ∧ r.1.id = id ∧ r.1.state = .dispatched := by
  unfold dispatchMoney at h
  simp only [lockAccount_bind, findReservation_bind] at h
  obtain ⟨a, ha, row, hr, rfl, hp, h⟩ := h
  split at h
  · cases Tx.pure_ok.1 h; exact ⟨.refl _ g, hr, rfl, ‹_›⟩
  · simp only [Tx.reject_bind, updateRow_bind, not_not] at h
    obtain ⟨hs, h⟩ := h
    obtain ⟨_, s, h1, h2⟩ := Tx.bind_ok.1 h
    obtain ⟨o, rfl, -⟩ := appendEvent_ok h1
    cases Tx.pure_ok.1 h2
    refine ⟨?_, Table.mem_put.2 (.inr ⟨rfl, row, hr, rfl⟩), rfl, rfl⟩
    refine .putReservation (.dispatch call.now row hr hs) g hr (dispatched_terms _ _) (.refl _) ?_
    have : (dispatchedReservation call.now row).state.holds row.reservedMicrounits - row.state.holds
      row.reservedMicrounits
        = 0 := by rw [hs]; exact sub_self _
    rw [this, Totals.addHold_zero]; exact g.shows

/-- Usage was reported for the reservation, or it ended without. -/
def Reservation.Reported (r : Reservation) : Prop :=
  (r.state = .settled ∨ r.state = .waived) ∨ r.state = .dispatched ∧ r.completion ≠ none

theorem unresolvedMoney_step {request : UnresolvedRequest} {r : Reservation × Db} (g : Good db.books db.projections)
    (h : unresolvedMoney call project id request db = .ok r) :
    Step [.report] db.books db.projections r.2.books r.2.projections ∧
      r.1 ∈ r.2.books.reservations ∧ r.1.id = id ∧ r.1.Reported := by
  unfold unresolvedMoney at h
  simp only [Tx.reject_bind, lockAccount_bind, findReservation_bind] at h
  obtain ⟨-, a, ha, row, hr, rfl, hp, h⟩ := h
  split at h
  · cases Tx.pure_ok.1 h; exact ⟨.refl _ g, hr, rfl, .inl ‹_›⟩
  · simp only [Tx.reject_bind, not_not] at h
    obtain ⟨hs, h⟩ := h
    cases hc : row.completion with
    | some previous =>
      rw [hc] at h
      simp only [Tx.reject_bind] at h
      cases Tx.pure_ok.1 h.2; exact ⟨.refl _ g, hr, rfl, .inr ⟨hs, by simp [hc]⟩⟩
    | none =>
      rw [hc] at h
      simp only [updateRow_bind] at h
      obtain ⟨_, s, h1, h2⟩ := Tx.bind_ok.1 h
      obtain ⟨o, rfl, -⟩ := appendEvent_ok h1
      cases Tx.pure_ok.1 h2
      refine ⟨?_, Table.mem_put.2 (.inr ⟨rfl, row, hr, rfl⟩), rfl, .inr ⟨hs, by simp [unresolvedReservation]⟩⟩
      refine .putReservation (.report call.now row request hr hs) g hr (unresolved_terms _ _ _) (.refl _) ?_
      rw [show (unresolvedReservation call.now row request).state = row.state from rfl, sub_self, Totals.addHold_zero]
      exact g.shows

theorem releaseMoney_step {request : ReleaseRequest} {r : Reservation × Db} (g : Good db.books db.projections)
    (h : releaseMoney call project id request db = .ok r) :
    Step [.release] db.books db.projections r.2.books r.2.projections ∧
      r.1 ∈ r.2.books.reservations ∧ r.1.id = id ∧ r.1.state = .released := by
  unfold releaseMoney at h
  simp only [Tx.reject_bind, lockAccount_bind, findReservation_bind] at h
  obtain ⟨-, a, ha, row, hr, rfl, hp, h⟩ := h
  obtain ⟨ha, hap⟩ := account_of_find ha
  split at h
  · cases Tx.pure_ok.1 h; exact ⟨.refl _ g, hr, rfl, ‹_›⟩
  · simp only [Tx.reject_bind, not_not] at h
    obtain ⟨hs, h⟩ := h
    obtain ⟨_, s, h1, h2⟩ := Tx.bind_ok.1 h
    obtain ⟨p, hp', hs', keep, -, -, -, -, -⟩ := changeHold_spec h1 g.shows (fun _ => ⟨rfl, rfl⟩) (fun _ => rfl)
    simp only at hp'
    subst hp'
    rw [updateRow_bind] at h2
    obtain ⟨_, s, h3, h4⟩ := Tx.bind_ok.1 h2
    obtain ⟨o, rfl, -⟩ := appendEvent_ok h3
    cases Tx.pure_ok.1 h4
    refine ⟨?_, Table.mem_put.2 (.inr ⟨rfl, row, hr, rfl⟩), rfl, rfl⟩
    refine .putReservation (.release call.now row request.reason hr hs) g hr (released_terms _ _ _) keep ?_
    rw [g.owned.account_eq ha hr (hap.trans hp.symm)] at hs'
    have : (releasedReservation call.now row request.reason).state.holds row.reservedMicrounits
        - row.state.holds row.reservedMicrounits = -row.reservedMicrounits := by
      rw [hs]; exact zero_sub _
    rw [this]; exact hs'

/-- What a settlement of an open reservation did: the spend and the holds moved, then the charge was posted. -/
theorem settleLocked_inv {a : BillingAccount} {row : Reservation} {request : SettleRequest} {r : Reservation × Db}
    (g : Good db.books db.projections) (ha : a ∈ db.books.accounts) (hp : a.projectId = row.projectId)
    (hr : row ∈ db.books.reservations) (pending : row.state ≠ .settled)
    (h : settleLocked call a row request db = .ok r) :
    ∃ amount us b' p o, r = (settledReservation call.now row request amount, ⟨b', p, o⟩) ∧ request.wellFormed = true ∧
      row.state = .dispatched ∧ request.inputTokens ≤ row.spec.inputTokenLimit ∧
        request.outputTokens ≤ row.spec.outputTokenLimit ∧
      usageCostMicrounits row.price request.inputTokens request.outputTokens = .ok amount ∧
      db.books.usageEvents.insert? (settledUsage call.now a row request amount) = some us ∧
      Charged call a amount (settledPosting row amount)
        { db.books with
          usageEvents := us
          reservations := db.books.reservations.put (settledReservation call.now row request amount) } b' ∧
      p.Shows b'.totals ∧ Covered b' p ∧
      (0 < amount → Funded a (db.books.balance a.id - (db.books.held a.id - row.reservedMicrounits) + -amount)) := by
  unfold settleLocked at h
  simp only [Tx.reject_bind] at h
  obtain ⟨wf, h⟩ := h
  rw [if_neg pending] at h
  simp only [Tx.reject_bind, checkDomain_bind, not_not, not_or, not_lt] at h
  obtain ⟨hs, ⟨hin, hout⟩, amount, cost, h⟩ := h
  obtain ⟨spend, s, h1, h2⟩ := Tx.bind_ok.1 h
  obtain ⟨p1, hp1, hs1, keep1, hspend, hb1, hk1⟩ :=
    monthly_spec h1 g.shows (Calendar.firstOfMonth_idem _) (fun _ => rfl)
  simp only at hp1
  subst hp1
  obtain ⟨_, s, h3, h4⟩ := Tx.bind_ok.1 h2
  obtain ⟨p2, hp2, hs2, keep2, ⟨x, hx⟩, -, hm2, -, -⟩ := changeHold_spec h3 hs1 (fun _ => ⟨rfl, rfl⟩) (fun _ => rfl)
  simp only at hp2
  subst hp2
  simp only [insertRow_bind] at h4
  obtain ⟨-, us, hi, h4⟩ := h4
  obtain ⟨_, s, h5, h6⟩ := Tx.bind_ok.1 h4
  have hkey : (spend.apiKeyId, spend.month) = (row.apiKeyId, Calendar.firstOfMonth (Calendar.ofTimestamp call.now)) :=
    Table.get?_key hspend
  obtain ⟨ek, em⟩ := Prod.mk.inj hkey
  have hmonth : p2.monthSpends.get? (row.apiKeyId, Calendar.firstOfMonth (Calendar.ofTimestamp call.now)) =
      some spend := by
    rw [hm2]; exact hspend
  obtain ⟨p3, hp3, hs3, keep3, -, -⟩ := changeSpend_spec h5 hs2 (by rw [ek, em]; exact hmonth)
  simp only at hp3
  subst hp3
  rw [updateRow_bind] at h6
  obtain ⟨_, s, h7, h8⟩ := Tx.bind_ok.1 h6
  -- before posting, the counters show the usage inserted and the hold given up
  have hacc : a.id = row.billingAccountId := g.owned.account_eq ha hr hp
  let b2 : Books :=
    { db.books with
      usageEvents := us
      reservations := db.books.reservations.put (settledReservation call.now row request amount) }
  have ht2 : b2.totals =
      (db.books.totals.addHold a.id row.apiKeyId (-row.reservedMicrounits)).addSpent spend.apiKeyId
        spend.month amount := by
    rw [ek, em, hacc]; exact totals_settle hr hs hi
  have hcov2 : Covered b2 p3 :=
    ((g.covered.keeps (keep1.trans (keep2.trans keep3))).insertUsage hi (keep3.months _ spend hmonth)).putReservation
      hr (settled_terms _ _ _ _)
  obtain ⟨b', p4, o, rfl, charged, hs4, keep4, funds⟩ := postCharge_spec h7 (by rw [← ht2] at hs3; exact hs3)
    (fun x hx hxp => g.owned.unique x hx a ha hxp) (by simp [settledPosting])
  obtain ⟨_, s, h9, h10⟩ := Tx.bind_ok.1 h8
  obtain ⟨o', rfl, -⟩ := appendEvent_ok h9
  cases Tx.pure_ok.1 h10
  refine ⟨amount, us, b', p4, o', rfl, by simpa using wf, hs, hin, hout, cost, hi, charged, hs4,
    charged.covered (hcov2.keeps keep4), fun hpos => ?_⟩
  have hheld : b2.held a.id = db.books.held a.id - row.reservedMicrounits := by
    rw [show b2.held a.id = b2.totals.held a.id from rfl, ht2]
    simp [Totals.addHold, Totals.addSpent, Books.totals, sub_eq_add_neg]
  have := funds hpos (by simp [settledPosting, hpos])
  change Funded a (db.books.balance a.id - b2.held a.id + -amount) at this
  rw [hheld] at this
  exact this

theorem settleLocked_step {a : BillingAccount} {row : Reservation} {request : SettleRequest} {r : Reservation × Db}
    (g : Good db.books db.projections) (ha : a ∈ db.books.accounts) (hp : a.projectId = row.projectId)
    (hr : row ∈ db.books.reservations) (h : settleLocked call a row request db = .ok r) :
    Step [.settle call.now] db.books db.projections r.2.books r.2.projections ∧
      r.1 ∈ r.2.books.reservations ∧ r.1.id = row.id ∧ r.1.state = .settled := by
  by_cases hs : row.state = .settled
  · unfold settleLocked at h
    rw [Tx.reject_bind, if_pos hs, Tx.reject_bind] at h
    cases Tx.pure_ok.1 h.2.2
    exact ⟨.refl _ g, hr, rfl, hs⟩
  · obtain ⟨amount, us, b', p, o, rfl, wf, dispatched, hin, hout, cost, hi, charged, shows, covered, funds⟩ :=
      settleLocked_inv g ha hp hr hs h
    have answer : settledReservation call.now row request amount ∈ b'.reservations := by
      obtain ⟨ts, es, rfl⟩ := charged.eq
      exact Table.mem_put.2 (.inr ⟨rfl, row, hr, rfl⟩)
    have move : Move (.settle call.now) db.books b' :=
      .settle call a row request amount us ha hp hr dispatched wf hin hout cost (fun hpos => by
        have := funds hpos
        rw [← sub_eq_add_neg] at this
        exact this) hi charged
    exact ⟨⟨move.moves (by simp), shows, covered⟩, answer, rfl, rfl⟩

theorem settleMoney_step {request : SettleRequest} {r : Reservation × Db} (g : Good db.books db.projections)
    (h : settleMoney call project id request db = .ok r) :
    Step [.settle call.now] db.books db.projections r.2.books r.2.projections ∧
      r.1 ∈ r.2.books.reservations ∧ r.1.id = id ∧ r.1.state = .settled := by
  unfold settleMoney at h
  simp only [lockAccount_bind, findReservation_bind] at h
  obtain ⟨a, ha, row, hr, rfl, hp, h⟩ := h
  obtain ⟨ha, hap⟩ := account_of_find ha
  exact settleLocked_step g ha (hap.trans hp.symm) hr h

theorem admitBalance_spec {a : BillingAccount} {amount : Int} {r : Unit × Db} (h : admitBalance a amount db = .ok r)
    (hs : db.projections.Shows db.books.totals) :
    ∃ p, r.2 = db.withProjections p ∧ p.Shows db.books.totals ∧ db.projections.Keeps p ∧
      Funded a (db.books.balance a.id - db.books.held a.id - amount) := by
  unfold admitBalance at h
  split at h
  · obtain ⟨⟨b, e⟩, s, h1, h2⟩ := Tx.bind_ok.1 h
    obtain ⟨p, hr, hp, keep, -⟩ := balanceAndHeld_spec h1 hs (fun _ => ⟨rfl, rfl⟩)
    cases hr
    simp only [Tx.reject_ok, not_all_neg] at h2
    obtain ⟨⟨v, hv, hv0⟩, rfl⟩ := h2
    refine ⟨p, rfl, hp, keep, fun _ => ?_⟩
    obtain ⟨u, hu, hv⟩ := Option.bind_eq_some_iff.1 hv
    rw [show db.books.balance a.id - db.books.held a.id = u from (checkedSub_some.1 hu).1, (checkedSub_some.1 hv).1]
    exact hv0
  · rename_i hc
    cases Tx.pure_ok.1 h
    exact ⟨_, rfl, hs, .refl _, fun he => absurd he hc⟩

/-- A budget is a bound a checked sum has to be in range for. -/
theorem not_all_over {o : Option Int} {budget : Int} :
    ¬(o.all fun v => decide (budget < v)) = true ↔ ∃ v, o = some v ∧ v ≤ budget := by
  cases o <;> simp

theorem admitBudget_spec {k : ApiKey} {now amount : Int} {r : Unit × Db} (h : admitBudget k now amount db = .ok r)
    (hs : db.projections.Shows db.books.totals) :
    ∃ p, r.2 = db.withProjections p ∧ p.Shows db.books.totals ∧ db.projections.Keeps p ∧
      Budgeted db.books k now amount := by
  unfold admitBudget at h
  split at h
  · obtain ⟨m, s, h1, h2⟩ := Tx.bind_ok.1 h
    obtain ⟨p1, hp1, hs1, keep1, hm, -⟩ := monthly_spec h1 hs (Calendar.firstOfMonth_idem _) (fun _ => rfl)
    simp only at hp1
    subst hp1
    obtain ⟨held, s, h3, h4⟩ := Tx.bind_ok.1 h2
    obtain ⟨p2, hp2, hs2, keep2, hheld, -, hmonths⟩ := keyHold_spec h3 hs1 (fun _ => rfl)
    simp only at hp2
    subst hp2
    simp only [Tx.expect_bind, Tx.reject_ok, not_all_over] at h4
    obtain ⟨budget, hb, ⟨used, hused, le⟩, rfl⟩ := h4
    refine ⟨p2, rfl, hs2, keep1.trans keep2, fun _ => ?_⟩
    obtain ⟨sum, hsum, hused⟩ := Option.bind_eq_some_iff.1 hused
    have em := (hs1.months m (Table.get?_mem hm)).1
    obtain ⟨ek, emo⟩ := Prod.mk.inj (Table.get?_key hm : (m.apiKeyId, m.month) = _)
    have eh := (hs2.keyHolds held (Table.get?_mem hheld)).1
    have ehk : held.apiKeyId = k.id := Table.get?_key hheld
    rw [ek, emo] at em
    rw [ehk] at eh
    have e1 := (checkedAdd_some.1 hsum).1
    have e2 := (checkedAdd_some.1 hused).1
    have e3 := (checkedMul_some.1 hb).1
    rw [em, eh] at e1
    rw [← e1] at e2
    rw [e3]
    exact e2.trans_le le
  · rename_i hc
    cases Tx.pure_ok.1 h
    exact ⟨_, rfl, hs, .refl _, fun hpos => absurd hpos hc⟩

@[simp] theorem activeModel_bind {α : Type} {m : String} {f : Model → DbTx α} {r : α × Db} :
    (activeModel m >>= f) db = .ok r ↔
      ∃ row ∈ db.books.catalog, row.id = m ∧ row.enabled = true ∧ f row.definition db = .ok r := by
  unfold activeModel
  rw [Tx.bind_ok]
  simp only [findById_bind, Tx.expect_bind, Tx.pure_ok, Option.filter_eq_some_iff]
  constructor
  · rintro ⟨_, s, ⟨row, ⟨hg, he⟩, hp⟩, hf⟩
    cases hp
    obtain ⟨hm, hk⟩ := Table.get?_some_iff.1 hg
    exact ⟨row, hm, hk, he, hf⟩
  · rintro ⟨row, hm, hk, he, hf⟩
    exact ⟨_, db, ⟨row, ⟨Table.get?_some_iff.2 ⟨hm, hk⟩, he⟩, rfl⟩, hf⟩

/-- A reservation is covered by the counters its hold was written to. -/
theorem Covered.insertReservation {b : Books} {p : Projections} {rs : Table Reservation} {row : Reservation}
    (h : Covered b p) (hi : b.reservations.insert? row = some rs)
    (ha : ∃ x, p.balances.get? row.billingAccountId = some x) (hk : ∃ x, p.keyHolds.get? row.apiKeyId = some x) :
    Covered { b with reservations := rs } p := by
  refine ⟨fun r hr => ?_, h.usageEvents⟩
  rcases (Table.mem_insert? hi).1 hr with rfl | hr
  · exact ⟨ha, hk⟩
  · exact h.reservations r hr

/-- What an admission read of the catalog and inserted. -/
structure Admitted (b : Books) (a : BillingAccount) (now : Int) (request : ReserveRequest) (row : Reservation)
    (b' : Books) : Prop where
  entry : ∃ entry ∈ b.catalog, entry.id = request.modelId ∧ request.priceVersion = entry.definition.priceVersion ∧
    ∃ amount, row = newReservation now a request entry.definition amount
  inserted : ∃ rs, b.reservations.insert? row = some rs ∧ b' = { b with reservations := rs }

theorem admitReservation_inv {a : BillingAccount} {request : ReserveRequest} {r : Reservation × Db}
    (g : Good db.books db.projections) (ha : a ∈ db.books.accounts) (hp : a.projectId = request.projectId)
    (wf : request.wellFormed = true) (h : admitReservation call a request db = .ok r) :
    Step [.reserve call.now] db.books db.projections r.2.books r.2.projections ∧
      Admitted db.books a call.now request r.1 r.2.books := by
  unfold admitReservation at h
  simp only [Tx.reject_bind, findById_bind, Tx.expect_bind, activeModel_bind, findWhere_bind, checkDomain_bind, not_or,
    Bool.not_eq_true, Option.isSome_eq_false_iff, Option.isNone_iff_eq_none] at h
  obtain ⟨-, k, hk, -, entry, hm, hid, -, terms, ⟨hres, huse⟩, amount, cost, h⟩ := h
  obtain ⟨_, s, h1, h2⟩ := Tx.bind_ok.1 h
  obtain ⟨p1, hp1, hs1, keep1, funds⟩ := admitBalance_spec h1 g.shows
  simp only at hp1
  subst hp1
  obtain ⟨_, s, h3, h4⟩ := Tx.bind_ok.1 h2
  obtain ⟨p2, hp2, hs2, keep2, budget⟩ := admitBudget_spec h3 hs1
  simp only at hp2
  subst hp2
  obtain ⟨_, s, h5, h6⟩ := Tx.bind_ok.1 h4
  obtain ⟨p3, hp3, hs3, keep3, hca, hck, -, -, -⟩ := changeHold_spec h5 hs2 (fun _ => ⟨rfl, rfl⟩) (fun _ => rfl)
  simp only at hp3
  subst hp3
  simp only [insertRow_bind] at h6
  obtain ⟨-, rs, hi, h6⟩ := h6
  obtain ⟨_, s, h7, h8⟩ := Tx.bind_ok.1 h6
  obtain ⟨o, rfl, -⟩ := appendEvent_ok h7
  cases Tx.pure_ok.1 h8
  have hkey : k.id = request.apiKeyId := Table.get?_key hk
  rw [hkey] at hs3 hck
  refine ⟨?_, ⟨entry, hm, hid, by simpa using terms.1, amount, rfl⟩, rs, hi, rfl⟩
  refine ⟨(Move.reserve call.now a request entry k amount rs ha hp wf hm hid (Table.get?_mem hk)
    (Table.get?_key hk) cost
    (fun x hx => ?_) (fun u hu => ?_) funds budget hi).moves (by simp), ?_,
      (g.covered.keeps (keep1.trans (keep2.trans keep3))).insertReservation hi hca hck⟩
  · have := Table.find_none hres x hx
    simpa using this
  · have := Table.find_none huse u hu
    simpa using this
  · have ht : ({ db.books with reservations := rs } : Books).totals =
        db.books.totals.addHold a.id request.apiKeyId amount := totals_insertReservation hi rfl
    show p3.Shows ({ db.books with reservations := rs } : Books).totals
    rw [ht]; exact hs3

theorem admitReservation_step {a : BillingAccount} {request : ReserveRequest} {r : Reservation × Db}
    (g : Good db.books db.projections) (ha : a ∈ db.books.accounts) (hp : a.projectId = request.projectId)
    (wf : request.wellFormed = true) (h : admitReservation call a request db = .ok r) :
    Step [.reserve call.now] db.books db.projections r.2.books r.2.projections ∧
      r.1 ∈ r.2.books.reservations ∧ r.1.id = request.id := by
  obtain ⟨step, ⟨entry, -, -, -, amount, row⟩, rs, inserted, books⟩ := admitReservation_inv g ha hp wf h
  refine ⟨step, ?_, by rw [row]; rfl⟩
  rw [books]
  exact (Table.mem_insert? inserted).2 (.inl rfl)

theorem reserveMoney_step {request : ReserveRequest} {r : Reservation × Db} (g : Good db.books db.projections)
    (h : reserveMoney call request db = .ok r) :
    Step [.reserve call.now] db.books db.projections r.2.books r.2.projections ∧
      r.1 ∈ r.2.books.reservations ∧ r.1.id = request.id := by
  unfold reserveMoney at h
  simp only [Tx.reject_bind, lockAccount_bind, findById_bind] at h
  obtain ⟨wf, a, ha, -, h⟩ := h
  obtain ⟨ha, hap⟩ := account_of_find ha
  cases hg : (Slot.reservations.get db).get? request.id with
  | some existing =>
    rw [hg] at h
    simp only [Tx.reject_bind] at h
    cases Tx.pure_ok.1 h.2; exact ⟨.refl _ g, Table.get?_mem hg, Table.get?_key hg⟩
  | none =>
    rw [hg] at h
    exact admitReservation_step g ha hap (by simpa using wf) h

/-- A reservation is a replay of the stored one, or it was admitted. -/
theorem reserveMoney_inv {request : ReserveRequest} {r : Reservation × Db} (g : Good db.books db.projections)
    (h : reserveMoney call request db = .ok r) : request.wellFormed = true ∧
      ∃ a ∈ db.books.accounts, a.projectId = request.projectId ∧ a.tenantId = request.tenantId ∧
        ((r.2 = db ∧ db.books.reservations.get? request.id = some r.1 ∧ r.1.spec = request) ∨
          Admitted db.books a call.now request r.1 r.2.books) := by
  unfold reserveMoney at h
  simp only [Tx.reject_bind, lockAccount_bind, findById_bind] at h
  obtain ⟨wf, a, ha, tenant, h⟩ := h
  obtain ⟨ha, hap⟩ := account_of_find ha
  refine ⟨by simpa using wf, a, ha, hap, by simpa using tenant, ?_⟩
  cases hg : (Slot.reservations.get db).get? request.id with
  | some existing =>
    rw [hg] at h
    simp only [Tx.reject_bind] at h
    obtain ⟨same, h⟩ := h
    cases Tx.pure_ok.1 h
    exact .inl ⟨rfl, hg, by simpa using same⟩
  | none =>
    rw [hg] at h
    exact .inr (admitReservation_inv g ha hap (by simpa using wf) h).2

end Reservation

/-! ## Reviews -/

section Review

variable {digests : Digests} {db : Db} {call : Call} {project id : String}

theorem submitReview_step {reservationId actor subject : String} {submission : Submission} {r : BillingReview × Db}
    (g : Good db.books db.projections)
    (h : submitReview digests call project reservationId actor subject submission db = .ok r) :
    Step [.review] db.books db.projections r.2.books r.2.projections := by
  unfold submitReview at h
  simp only [lockAccount_bind, findById_bind] at h
  obtain ⟨a, ha, h⟩ := h
  cases hg : (Slot.reviews.get db).get? submission.id with
  | some existing =>
    rw [hg] at h
    simp only [Tx.reject_bind] at h
    cases Tx.pure_ok.1 h.2; exact .refl _ g
  | none =>
    rw [hg] at h
    simp only [findReservation_bind, Tx.reject_bind, insertRow_bind, appendAudit] at h
    obtain ⟨row, hr, -, hp, -, -, ts, hts, -, as, has, h⟩ := h
    obtain ⟨_, s, h1, h2⟩ := Tx.bind_ok.1 h
    obtain ⟨o, rfl, -⟩ := appendEvent_ok h1
    cases Tx.pure_ok.1 h2
    exact (Step.refl _ g).review (by simp) _ _

theorem waiveReservation_step {a : BillingAccount} {held : Reservation} {review : BillingReview} {actor : String}
    {r : Unit × Db} (g : Good db.books db.projections) (ha : a ∈ db.books.accounts) (hp : a.projectId = held.projectId)
    (hr : held ∈ db.books.reservations) (h : waiveReservation call a held review actor db = .ok r) :
    Step [.waive] db.books db.projections r.2.books r.2.projections := by
  unfold waiveReservation at h
  simp only [Tx.reject_bind] at h
  obtain ⟨hs, h⟩ := h
  have hheld : held.state.held = true := by
    cases hst : held.state <;> simp [hst, ReservationState.held] at hs ⊢
  obtain ⟨_, s, h1, h2⟩ := Tx.bind_ok.1 h
  obtain ⟨p, hp', hs', keep, -, -, -, -, -⟩ := changeHold_spec h1 g.shows (fun _ => ⟨rfl, rfl⟩) (fun _ => rfl)
  simp only at hp'
  subst hp'
  rw [updateRow_bind] at h2
  obtain ⟨o, ho, -⟩ := appendEvent_ok h2
  rw [ho]
  refine .putReservation (.waive call.now held hr hheld) g hr (waived_terms _ _) keep ?_
  rw [g.owned.account_eq ha hr hp] at hs'
  have : (waivedReservation call.now held).state.holds held.reservedMicrounits
      - held.state.holds held.reservedMicrounits = -held.reservedMicrounits := by
    rw [ReservationState.holds_of_held hheld]; exact zero_sub _
  rw [this]; exact hs'

theorem approveReview_step {a : BillingAccount} {review : BillingReview} {actor : String} {r : Unit × Db}
    (g : Good db.books db.projections) (ha : a ∈ db.books.accounts) (hp : a.projectId = project)
    (h : approveReview call a project review actor db = .ok r) :
    Step [.settle call.now, .waive] db.books db.projections r.2.books r.2.projections := by
  unfold approveReview at h
  simp only [findReservation_bind] at h
  obtain ⟨held, hr, -, hproj, h⟩ := h
  cases he : review.evidence with
  | waiver w =>
    rw [he] at h
    exact (waiveReservation_step g ha (hp.trans hproj.symm) hr h).mono (by simp)
  | evidence e =>
    rw [he] at h
    obtain ⟨row, s, h1, h2⟩ := Tx.bind_ok.1 h
    cases Tx.pure_ok.1 h2
    exact (settleLocked_step g ha (hp.trans hproj.symm) hr h1).1.mono (by simp)

theorem decideBillingReview_step {actor subject : String} {request : DecisionRequest} {r : BillingReview × Db}
    (g : Good db.books db.projections) (h : decideBillingReview call project id actor subject request db = .ok r) :
    Step [.settle call.now, .waive, .review] db.books db.projections r.2.books r.2.projections := by
  unfold decideBillingReview at h
  simp only [Tx.reject_bind, lockAccount_bind, findById_bind, Tx.expect_bind] at h
  obtain ⟨-, a, ha, row, -, -, -, h⟩ := h
  obtain ⟨ha, hap⟩ := account_of_find ha
  split at h
  · simp only [Tx.reject_bind] at h
    cases Tx.pure_ok.1 h.2; exact .refl _ g
  · obtain ⟨_, s, h1, h2⟩ := Tx.bind_ok.1 h
    have step : Step [.settle call.now, .waive, .review] db.books db.projections s.books s.projections := by
      unfold applyDecision at h1
      split at h1
      · exact (approveReview_step g ha hap h1).mono (by simp)
      · cases Tx.pure_ok.1 h1; exact .refl _ g
    simp only [updateRow_bind, insertRow_bind, appendAudit] at h2
    obtain ⟨-, as, has, h2⟩ := h2
    obtain ⟨_, s', h3, h4⟩ := Tx.bind_ok.1 h2
    obtain ⟨o, rfl, -⟩ := appendEvent_ok h3
    cases Tx.pure_ok.1 h4
    exact step.review (by simp) _ _

end Review

/-! ## Accounts, recorded usage and the balance policy -/

section Usage

variable {db : Db} {call : Call} {project : String}

/-- Inserting the account of a project that has none. -/
theorem Registry.newAccount {b : Books} {p : Project} {t : Table BillingAccount}
    (hc : ∀ x ∈ b.accounts, Slot.accounts.clash (newBillingAccount p) x = false)
    (hi : b.accounts.insert? (newBillingAccount p) = some t) : Registry b { b with accounts := t } := by
  refine ⟨rfl, rfl, rfl, rfl, rfl, rfl, fun a ha => (Table.mem_insert? hi).2 (.inr ha), fun a ha => ?_,
    fun _ h => .inl h, fun _ h => .inl h, fun _ _ h => h, fun _ h => .inl h, fun k h => ⟨k, h, rfl, rfl⟩, rfl, rfl⟩
  rcases (Table.mem_insert? hi).1 ha with rfl | ha
  · refine .inr ⟨rfl, fun x hx hp => ?_⟩
    rcases (Table.mem_insert? hi).1 hx with rfl | hx
    · rfl
    · have := hc x hx
      simp only [Slot.accounts, beq_eq_false_iff_ne] at this
      exact absurd hp.symm this
  · exact .inl ha

theorem ensureAccountForProject_step {r : BillingAccount × Db} (g : Good db.books db.projections)
    (h : ensureAccountForProject project db = .ok r) :
    Step [.registry] db.books db.projections r.2.books r.2.projections ∧ (∃ t, r.2 = Slot.accounts.set t db) ∧
      r.1 ∈ r.2.books.accounts ∧ r.1.projectId = project := by
  unfold ensureAccountForProject at h
  rw [findWhere_bind] at h
  cases hf : (Slot.accounts.get db).find (fun a => a.projectId == project) with
  | some a =>
    rw [hf] at h
    cases Tx.pure_ok.1 h
    exact ⟨.refl _ g, ⟨_, rfl⟩, account_of_find hf⟩
  | none =>
    rw [hf] at h
    simp only [findById_bind, Tx.expect_bind, createBillingAccount, insertRow_bind, Tx.pure_ok] at h
    obtain ⟨p, hp, hc, t, hi, rfl⟩ := h
    exact ⟨.registry (.newAccount hc hi) g, ⟨t, rfl⟩, (Table.mem_insert? hi).2 (.inl rfl), Table.get?_key hp⟩

/-- Pricing reads only; a charge is the cost at a stored price. -/
theorem priceUsage_spec {e : UsageEvent} {r : Int × Db} (h : priceUsage e db = .ok r) :
    r.2 = db ∧ (r.1 = 0 ∨
      ∃ row ∈ db.books.prices, usageCostMicrounits row.definition e.inputTokens e.outputTokens = .ok r.1) := by
  unfold priceUsage at h
  simp only [checkRequest_bind, findById_bind, Tx.expect_bind, Tx.reject_bind] at h
  obtain ⟨-, k, -, -, h⟩ := h
  split at h
  · obtain ⟨m, s, h1, h2⟩ := Tx.bind_ok.1 h
    simp only [historicalPrice, findById_bind, Tx.expect_bind, Tx.pure_ok] at h1
    obtain ⟨row, hrow, h1⟩ := h1
    cases h1
    obtain ⟨v, hc, rfl⟩ := checkDomain_ok.1 h2
    exact ⟨rfl, .inr ⟨row, Table.get?_mem hrow, hc⟩⟩
  · cases Tx.pure_ok.1 h
    exact ⟨rfl, .inl rfl⟩

theorem storeUsage_step {a : BillingAccount} {e : UsageEvent} {cost : Int} {r : Option Unit × Db}
    (g : Good db.books db.projections) (ha : a ∈ db.books.accounts) (hp : a.projectId = e.projectId)
    (priced : cost = 0 ∨ ∃ row ∈ db.books.prices, usageCostMicrounits row.definition e.inputTokens
    e.outputTokens = .ok cost)
    (h : storeUsage call a e cost db = .ok r) (hr : r.1 = some ()) :
    Step [.usage e] db.books db.projections r.2.books r.2.projections ∧
      ∃ us, db.books.usageEvents.insert? (recordedUsage call.now e cost) = some us ∧ r.2.books.usageEvents = us := by
  unfold storeUsage at h
  simp only [lockAccount_bind, findWhere_bind, Tx.reject_bind, Bool.not_eq_true, Option.isSome_eq_false_iff,
    Option.isNone_iff_eq_none] at h
  obtain ⟨-, -, hres, h⟩ := h
  obtain ⟨spend, s, h1, h2⟩ := Tx.bind_ok.1 h
  obtain ⟨p1, hp1, hs1, keep1, hspend, hb1, hk1⟩ :=
    monthly_spec h1 g.shows (Calendar.firstOfMonth_idem _) (fun _ => rfl)
  simp only at hp1
  subst hp1
  rw [findById_bind] at h2
  cases hg : (Slot.usageEvents.get (db.withProjections p1)).get? e.eventId with
  | some x =>
    rw [hg] at h2
    cases Tx.pure_ok.1 h2
    cases hr
  | none =>
    rw [hg] at h2
    simp only [insertRow_bind] at h2
    obtain ⟨-, us, hi, h2⟩ := h2
    obtain ⟨_, s, h3, h4⟩ := Tx.bind_ok.1 h2
    have hkey : (spend.apiKeyId, spend.month) =
        (e.apiKeyId, Calendar.firstOfMonth (Calendar.ofTimestamp e.occurredAt)) :=
      Table.get?_key hspend
    obtain ⟨ek, em⟩ := Prod.mk.inj hkey
    obtain ⟨p2, hp2, hs2, keep2, -, -⟩ := changeSpend_spec h3 hs1 (by rw [ek, em]; exact hspend)
    simp only at hp2
    subst hp2
    obtain ⟨_, s, h5, h6⟩ := Tx.bind_ok.1 h4
    cases Tx.pure_ok.1 h6
    -- the books between the recorded event and its charge
    let b1 : Books := { db.books with usageEvents := us }
    have ht1 : b1.totals = db.books.totals.addSpent spend.apiKeyId spend.month cost := by
      rw [ek, em]; exact totals_insertUsage hi
    have hcov : Covered b1 p2 :=
      (g.covered.keeps (keep1.trans keep2)).insertUsage hi (keep2.months _ spend hspend)
    obtain ⟨b', p3, o, rfl, charged, hs3, keep3, funds⟩ := postCharge_spec h5 (by rw [← ht1] at hs2; exact hs2)
      (fun x hx hxp => g.owned.unique x hx a ha hxp) (by simp [recordedPosting])
    refine ⟨?_, us, hi, by obtain ⟨ts, es, rfl⟩ := charged.eq; rfl⟩
    refine ⟨(Move.usage call a e cost us ha hp (fun x hx => ?_) priced (fun hpos => ?_) hi charged).moves
      (by simp), hs3, charged.covered (hcov.keeps keep3)⟩
    · have := Table.find_none hres x hx
      simpa using this
    · have := funds hpos (by simp [recordedPosting, hpos])
      change Funded a (db.books.balance a.id - db.books.held a.id + -cost) at this
      rw [← sub_eq_add_neg] at this
      exact this

theorem storeOnce_step {a : BillingAccount} {e : UsageEvent} {cost : Int} (g : Good db.books db.projections)
    (ha : a ∈ db.books.accounts) (hp : a.projectId = e.projectId)
    (priced : cost = 0 ∨ ∃ row ∈ db.books.prices, usageCostMicrounits row.definition e.inputTokens
    e.outputTokens = .ok cost) :
    Step [.usage e] db.books db.projections (storeOnce call a e cost db).2.books
      (storeOnce call a e cost db).2.projections := by
  unfold storeOnce
  cases hs : storeUsage call a e cost db with
  | error err => exact .refl _ g
  | ok r =>
    obtain ⟨_ | ⟨⟩, s⟩ := r
    · exact .refl _ g
    · exact (storeUsage_step g ha hp priced hs rfl).1

theorem recordUsage_step {e : UsageEvent} (g : Good db.books db.projections) :
    Step [.registry, .usage e] db.books db.projections (recordUsage call e db).2.books
      (recordUsage call e db).2.projections := by
  unfold recordUsage
  rcases Tx.commit_cases (priceUsage e) db with ⟨cost, s, h1, hc⟩ | ⟨err, -, hc⟩
  · rw [Session.bind_of_ok hc]
    obtain ⟨hs, priced⟩ := priceUsage_spec h1
    simp only at hs priced
    subst hs
    rcases Tx.commit_cases (ensureAccountForProject e.projectId) s with ⟨a, s', h2, hc'⟩ | ⟨err, -, hc'⟩
    · rw [Session.bind_of_ok hc']
      obtain ⟨step, ⟨t, ht⟩, ha, hp⟩ := ensureAccountForProject_step g h2
      simp only at ht
      subst ht
      exact (step.mono (by simp)).trans ((storeOnce_step (step.good g) ha hp priced).mono (by simp))
    · rw [Session.bind_of_error hc']; exact .refl _ g
  · rw [Session.bind_of_error hc]; exact .refl _ g

end Usage

end Xscope

/-
The life of a reservation over a run: which states follow which, what never changes, and what a
settlement leaves behind. A settled reservation has one usage event and, when it cost anything,
one debit of exactly that cost; any other reservation has neither.
-/
import Xscope.Billing.Journals

namespace Xscope

/-! ## The states -/

/-- The changes of state a reservation can make. -/
inductive ReservationState.Next : ReservationState → ReservationState → Prop
  | dispatch : Next .reserved .dispatched
  | settle : Next .dispatched .settled
  | release : Next .reserved .released
  | waiveReserved : Next .reserved .waived
  | waiveDispatched : Next .dispatched .waived

/-- `row` is `old` at a later moment: its terms stay, its state follows the lifecycle, and nothing
of it changes once it has ended. -/
structure Continues (old row : Reservation) : Prop where
  terms : SameTerms old row
  leads : Relation.ReflTransGen ReservationState.Next old.state row.state
  ended : old.state.held = false → row = old

theorem Continues.refl (r : Reservation) : Continues r r := ⟨.refl r, .refl, fun _ => rfl⟩

theorem Continues.trans {a b c : Reservation} (h1 : Continues a b) (h2 : Continues b c) : Continues a c := by
  refine ⟨h1.terms.trans h2.terms, h1.leads.trans h2.leads, fun h => ?_⟩
  have := h1.ended h
  subst this
  exact h2.ended h

/-- One change of a held reservation. -/
theorem Continues.step {old row : Reservation} (terms : SameTerms old row)
    (next : ReservationState.Next old.state row.state) :
    Continues old row := by
  refine ⟨terms, .single next, fun h => ?_⟩
  cases hs : old.state <;> rw [hs] at next h
  case reserved => cases h
  case dispatched => cases h
  all_goals cases hn : row.state <;> rw [hn] at next <;> cases next

/-- Every reservation of `b` is still there in `b'`. -/
def Carried (b b' : Books) : Prop := ∀ r ∈ b.reservations, ∃ r' ∈ b'.reservations, Continues r r'

theorem Carried.of_eq {b b' : Books} (h : b'.reservations = b.reservations) : Carried b b' :=
  fun r hr => ⟨r, by rw [h]; exact hr, .refl r⟩

theorem Carried.put {b b' : Books} {old row : Reservation} (ho : old ∈ b.reservations)
    (h : b'.reservations = b.reservations.put row) (c : Continues old row) : Carried b b' := by
  intro r hr
  rw [h]
  by_cases hid : r.id = old.id
  · have := Table.eq_of_key hr ho hid
    subst this
    exact ⟨row, Table.mem_put.2 (.inr ⟨rfl, r, hr, c.terms.id.symm⟩), c⟩
  · exact ⟨r, Table.mem_put.2 (.inl ⟨hr, fun e => hid (e.trans c.terms.id)⟩), .refl r⟩

theorem Move.carried {k : Kind} {b b' : Books} (m : Move k b b') : Carried b b' := by
  cases m with
  | registry g => exact .of_eq g.reservations
  | reserve now a request entry key amount rs ha hp wf hm hid hk hkid cost fresh unused funds budget hi =>
    exact fun r hr => ⟨r, (Table.mem_insert? hi).2 (.inr hr), .refl r⟩
  | dispatch now r hr hs => exact .put hr rfl (.step (dispatched_terms now r) (by rw [hs]; exact .dispatch))
  | release now r reason hr hs => exact .put hr rfl (.step (released_terms now r reason) (by rw [hs]; exact .release))
  | report now r request hr hs =>
    refine .put hr rfl ⟨unresolved_terms now r request, .refl, fun h => ?_⟩
    rw [hs] at h; cases h
  | settle call a r request amount us ha hp hr hs wf hin hout cost funds hi post =>
    obtain ⟨ts, es, rfl⟩ := post.eq
    exact .put hr rfl (.step (settled_terms call.now r request amount) (by rw [hs]; exact .settle))
  | waive now r hr hs =>
    refine .put hr rfl (.step (waived_terms now r) ?_)
    show ReservationState.Next r.state .waived
    cases h : r.state <;> rw [h] at hs
    case reserved => exact .waiveReserved
    case dispatched => exact .waiveDispatched
    all_goals cases hs
  | usage call a e cost us ha hp unreserved priced funds hi post => obtain ⟨ts, es, rfl⟩ := post.eq; exact .of_eq rfl
  | topUp call a o id provider reference currency key description ps ha hp ho hpend hfit hi post =>
    obtain ⟨ts, es, rfl⟩ := post.eq; exact .of_eq rfl
  | refund call a o p row key description rs ha hp ho hpay hprov hrow hst hpos le limit funds hi post =>
    obtain ⟨ts, es, rfl⟩ := post.eq; exact .of_eq rfl
  | prepare call a o p row key description rs ha hp ho hpay hprov hrow hst hpos limit funds hi post =>
    obtain ⟨ts, es, rfl⟩ := post.eq; exact .of_eq rfl
  | complete call a o p row trade ha hp ho hpay hprov hrow hpid hst post =>
    obtain ⟨ts, es, rfl⟩ := post.eq; exact .of_eq rfl
  | review reviews audits => exact .of_eq rfl
  | policy a ha flag => exact .of_eq rfl

theorem Moves.carried {ks : List Kind} {b b' : Books} (h : Moves ks b b') : Carried b b' := by
  refine h.keeps (I := Carried b) (fun k _ x x' m hx r hr => ?_) (.of_eq rfl)
  obtain ⟨r', hr', c⟩ := hx r hr
  obtain ⟨r'', hr'', c'⟩ := m.carried r' hr'
  exact ⟨r'', hr'', c.trans c'⟩

/-! ## What a settlement leaves -/

/-- The usage events of a reservation: by the id its settlement gives them, or by its request. -/
def usageOf (r : Reservation) (u : UsageRow) : Bool :=
  u.eventId == "evt-reservation-" ++ r.id || (u.projectId == r.projectId && u.requestId == r.requestId)

/-- The ledger transactions that charge a reservation. -/
def chargeOf (r : Reservation) (t : LedgerTransaction) : Bool :=
  t.referenceType == .usageEvent && t.referenceId == "evt-reservation-" ++ r.id

/-- Nothing was charged for the reservation. -/
structure Uncharged (b : Books) (r : Reservation) : Prop where
  settled : r.settledMicrounits = none
  usage : b.usageEvents.select (usageOf r) = []
  ledger : b.transactions.select (chargeOf r) = []

/-- One ledger transaction debits the account of the reservation, against usage revenue. -/
structure Debited (b : Books) (r : Reservation) (amount : Int) (t : LedgerTransaction) (debit credit : LedgerEntry) :
    Prop where
  only : b.transactions.select (chargeOf r) = [t]
  entries : b.entriesOf t.id = [credit, debit]
  account : debit.billingAccountId = r.billingAccountId
  customer : debit.ledgerAccount = .customerBalance
  amount : debit.amountMicrounits = -amount
  revenue : credit.ledgerAccount = .usageRevenue

/-- The reservation was charged the cost of the reported completion, once. -/
structure Settlement (b : Books) (r : Reservation) (request : SettleRequest) (amount : Int) (u : UsageRow) : Prop where
  completion : r.completion = some (.settled request)
  settled : r.settledMicrounits = some amount
  cost : usageCostMicrounits r.price request.inputTokens request.outputTokens = .ok amount
  nonneg : 0 ≤ amount
  bounded : amount ≤ r.reservedMicrounits
  usage : b.usageEvents.select (usageOf r) = [u]
  tokens : u.inputTokens = request.inputTokens ∧ u.outputTokens = request.outputTokens
  usageCost : u.costMicrounits = amount
  free : amount = 0 → b.transactions.select (chargeOf r) = []
  debited : 0 < amount → ∃ t debit credit, Debited b r amount t debit credit

/-- Every usage event and every usage posting comes from a settled reservation, and each
reservation is charged as its state says. -/
structure Books.Settles (b : Books) : Prop where
  requests : ∀ r ∈ b.reservations, ∀ r' ∈ b.reservations, r.projectId = r'.projectId →
    r.requestId = r'.requestId → r = r'
  usage : ∀ u ∈ b.usageEvents, ∃ r ∈ b.reservations, u.eventId = "evt-reservation-" ++ r.id
  ledger : ∀ t ∈ b.transactions, t.referenceType = .usageEvent →
    ∃ r ∈ b.reservations, t.referenceId = "evt-reservation-" ++ r.id
  unsettled : ∀ r ∈ b.reservations, r.state ≠ .settled → Uncharged b r
  settled : ∀ r ∈ b.reservations, r.state = .settled → ∃ request amount u, Settlement b r request amount u

/-! ## Moves beside settlements -/

section Frame

variable {b b' : Books} {old row r : Reservation} {k : Kind}

/-- A reservation with the same terms has the same usage events and charges. -/
theorem SameTerms.usageOf (h : SameTerms old row) : usageOf row = usageOf old := by
  funext u
  unfold Xscope.usageOf
  rw [h.id, h.projectId, h.requestId]

theorem SameTerms.chargeOf (h : SameTerms old row) : chargeOf row = chargeOf old := by
  funext t
  unfold Xscope.chargeOf
  rw [h.id]

theorem Uncharged.terms (h : Uncharged b old) (terms : SameTerms old row)
    (hs : row.settledMicrounits = old.settledMicrounits) : Uncharged b row :=
  ⟨hs.trans h.settled, by rw [terms.usageOf]; exact h.usage, by rw [terms.chargeOf]; exact h.ledger⟩

theorem Debited.terms {amount : Int} {t : LedgerTransaction} {e e' : LedgerEntry} (h : Debited b old amount t e e')
    (terms : SameTerms old row) : Debited b row amount t e e' :=
  { h with only := by rw [terms.chargeOf]; exact h.only, account := h.account.trans terms.billingAccountId.symm }

/-- A journal that is not a usage posting charges no reservation. -/
theorem Posts.charges (p : Posts k b b') (hk : k.charges = false) (r : Reservation) :
    b'.transactions.select (chargeOf r) = b.transactions.select (chargeOf r) := by
  cases p with
  | none ht he => rw [ht]
  | journal txn e₁ e₂ es fresh ht h1 h2 owner₁ owner₂ cancel kind =>
    have hk : txn.referenceType ≠ .usageEvent := kind.resolve_left (by simp [hk])
    rw [Table.select_insert? ht, if_neg]
    simp [chargeOf, hk]

theorem Posts.entriesOf (p : Posts k b b') {t : LedgerTransaction} (ht : t ∈ b.transactions) :
    b'.entriesOf t.id = b.entriesOf t.id := by
  cases p with
  | none _ he => unfold Books.entriesOf; rw [he]
  | journal txn e₁ e₂ es fresh hi h1 h2 owner₁ owner₂ cancel kind => exact entriesOf_old ht hi h1 h2 owner₁ owner₂

theorem Uncharged.frame (h : Uncharged b r) (hu : b'.usageEvents.select (usageOf r) = b.usageEvents.select (usageOf r))
    (hl : b'.transactions.select (chargeOf r) = b.transactions.select (chargeOf r)) : Uncharged b' r :=
  ⟨h.settled, hu.trans h.usage, hl.trans h.ledger⟩

theorem Settlement.frame {request : SettleRequest} {amount : Int} {u : UsageRow} (h : Settlement b r request amount u)
    (hu : b'.usageEvents.select (usageOf r) = b.usageEvents.select (usageOf r))
    (hl : b'.transactions.select (chargeOf r) = b.transactions.select (chargeOf r))
    (he : ∀ t ∈ b.transactions, b'.entriesOf t.id = b.entriesOf t.id) : Settlement b' r request amount u := by
  refine { h with usage := hu.trans h.usage, free := fun h0 => hl.trans (h.free h0), debited := fun hpos => ?_ }
  obtain ⟨t, e, e', d⟩ := h.debited hpos
  have ht : t ∈ b.transactions := by
    have : t ∈ b.transactions.select (chargeOf r) := by rw [d.only]; exact List.mem_singleton_self t
    exact (List.mem_filter.1 this).1
  exact ⟨t, e, e', { d with only := hl.trans d.only, entries := (he t ht).trans d.entries }⟩

/-- A move that neither settles nor records usage, and leaves the reservations. -/
theorem Books.Settles.frame (h : b.Settles) (p : Posts k b b') (hc : k.charges = false)
    (hr : b'.reservations = b.reservations) (hus : b'.usageEvents = b.usageEvents) : b'.Settles := by
  have hsel : ∀ r, b'.usageEvents.select (usageOf r) = b.usageEvents.select (usageOf r) := fun r => by rw [hus]
  refine ⟨by rw [hr]; exact h.requests, by rw [hus, hr]; exact h.usage, fun t ht hk => ?_, fun r hm hst => ?_,
    fun r hm hst => ?_⟩
  · rw [hr]
    cases p with
    | none htx he => rw [htx] at ht; exact h.ledger t ht hk
    | journal txn e₁ e₂ es fresh hi h1 h2 owner₁ owner₂ cancel kind =>
      rcases (Table.mem_insert? hi).1 ht with rfl | ht
      · exact absurd hk (kind.resolve_left (by simp [hc]))
      · exact h.ledger t ht hk
  · rw [hr] at hm
    exact (h.unsettled r hm hst).frame (hsel r) (p.charges hc r)
  · rw [hr] at hm
    obtain ⟨request, amount, u, st⟩ := h.settled r hm hst
    exact ⟨request, amount, u, st.frame (hsel r) (p.charges hc r) fun _ ht => p.entriesOf ht⟩

/-- Every row after a replacement is, up to its state, a row that was there. -/
theorem put_back (ho : old ∈ b.reservations) (terms : SameTerms old row) :
    ∀ x ∈ b.reservations.put row, ∃ y ∈ b.reservations, SameTerms y x := by
  intro x hx
  rcases Table.mem_put.1 hx with ⟨hx, -⟩ | ⟨rfl, -⟩
  · exact ⟨x, hx, .refl x⟩
  · exact ⟨old, ho, terms⟩

/-- Every row that was there is, up to its state, still there. -/
theorem put_there (ho : old ∈ b.reservations) (terms : SameTerms old row) :
    ∀ y ∈ b.reservations, ∃ x ∈ b.reservations.put row, SameTerms y x := by
  intro y hy
  by_cases hid : y.id = old.id
  · have := Table.eq_of_key hy ho hid
    subst this
    exact ⟨row, Table.mem_put.2 (.inr ⟨rfl, y, hy, terms.id.symm⟩), terms⟩
  · exact ⟨y, Table.mem_put.2 (.inl ⟨hy, fun e => hid (e.trans terms.id)⟩), .refl y⟩

theorem requests_put (h : b.Settles) (ho : old ∈ b.reservations) (terms : SameTerms old row) :
    ∀ x ∈ b.reservations.put row, ∀ x' ∈ b.reservations.put row, x.projectId = x'.projectId →
      x.requestId = x'.requestId →
      x = x' := by
  intro x hx x' hx' hp hq
  obtain ⟨y, hy, ty⟩ := put_back ho terms x hx
  obtain ⟨y', hy', ty'⟩ := put_back ho terms x' hx'
  have e : y = y' :=
    h.requests y hy y' hy' (ty.projectId.symm.trans (hp.trans ty'.projectId))
      (ty.requestId.symm.trans (hq.trans ty'.requestId))
  exact Table.eq_of_key hx hx' (by show x.id = x'.id; rw [ty.id, ty'.id, e])

/-- Another state of a reservation that was not settled and is not. -/
theorem Books.Settles.put (h : b.Settles) (ho : old ∈ b.reservations) (terms : SameTerms old row)
    (hm : row.settledMicrounits = old.settledMicrounits) (hs : old.state ≠ .settled) (hs' : row.state ≠ .settled) :
    ({ b with reservations := b.reservations.put row } : Books).Settles := by
  refine ⟨requests_put h ho terms, fun u hu => ?_, fun t ht hk => ?_, fun r hr hst => ?_, fun r hr hst => ?_⟩
  · obtain ⟨y, hy, hid⟩ := h.usage u hu
    obtain ⟨x, hx, tx⟩ := put_there ho terms y hy
    exact ⟨x, hx, by rw [tx.id]; exact hid⟩
  · obtain ⟨y, hy, hid⟩ := h.ledger t ht hk
    obtain ⟨x, hx, tx⟩ := put_there ho terms y hy
    exact ⟨x, hx, by rw [tx.id]; exact hid⟩
  · rcases Table.mem_put.1 hr with ⟨hr, -⟩ | ⟨rfl, -⟩
    · exact (h.unsettled r hr hst).frame rfl rfl
    · exact ((h.unsettled old ho hs).terms terms hm).frame rfl rfl
  · rcases Table.mem_put.1 hr with ⟨hr, -⟩ | ⟨rfl, -⟩
    · obtain ⟨request, amount, u, st⟩ := h.settled r hr hst
      exact ⟨request, amount, u, st.frame rfl rfl fun _ _ => rfl⟩
    · exact absurd hst hs'

/-- A new reservation: nothing was charged under its id or its request. -/
theorem Books.Settles.insert (h : b.Settles) {rs : Table Reservation} (hi : b.reservations.insert? row = some rs)
    (fresh : ∀ x ∈ b.reservations, ¬(x.projectId = row.projectId ∧ x.requestId = row.requestId))
    (unused : ∀ u ∈ b.usageEvents, ¬(u.projectId = row.projectId ∧ u.requestId = row.requestId))
    (hm : row.settledMicrounits = none) (hs : row.state ≠ .settled) :
    ({ b with reservations := rs } : Books).Settles := by
  have hid : ∀ x ∈ b.reservations, x.id ≠ row.id := Table.get?_none_iff.1 (Table.insert?_some hi).1
  refine ⟨fun x hx x' hx' hp hq => ?_, fun u hu => ?_, fun t ht hk => ?_, fun r hr hst => ?_, fun r hr hst => ?_⟩
  · rcases (Table.mem_insert? hi).1 hx with rfl | hx <;> rcases (Table.mem_insert? hi).1 hx' with rfl | hx'
    · rfl
    · exact absurd ⟨hp.symm, hq.symm⟩ (fresh x' hx')
    · exact absurd ⟨hp, hq⟩ (fresh x hx)
    · exact h.requests x hx x' hx' hp hq
  · obtain ⟨y, hy, hid⟩ := h.usage u hu
    exact ⟨y, (Table.mem_insert? hi).2 (.inr hy), hid⟩
  · obtain ⟨y, hy, hid⟩ := h.ledger t ht hk
    exact ⟨y, (Table.mem_insert? hi).2 (.inr hy), hid⟩
  · rcases (Table.mem_insert? hi).1 hr with rfl | hr
    · refine ⟨hm, Table.select_nil_iff.2 fun u hu => ?_, Table.select_nil_iff.2 fun t ht => ?_⟩
      · obtain ⟨y, hy, he⟩ := h.usage u hu
        have h1 : ¬u.eventId = "evt-reservation-" ++ r.id := by
          rw [he, String.append_right_inj]; exact hid y hy
        have h2 := unused u hu
        simp only [usageOf, Bool.or_eq_false_iff, Bool.and_eq_false_iff, beq_eq_false_iff_ne, ne_eq]
        exact ⟨h1, not_and_or.1 h2⟩
      · simp only [chargeOf, Bool.and_eq_false_iff, beq_eq_false_iff_ne, ne_eq]
        by_cases hk : t.referenceType = .usageEvent
        · obtain ⟨y, hy, he⟩ := h.ledger t ht hk
          right
          rw [he, String.append_right_inj]; exact hid y hy
        · exact .inl hk
    · exact (h.unsettled r hr hst).frame rfl rfl
  · rcases (Table.mem_insert? hi).1 hr with rfl | hr
    · exact absurd hst hs
    · obtain ⟨request, amount, u, st⟩ := h.settled r hr hst
      exact ⟨request, amount, u, st.frame rfl rfl fun _ _ => rfl⟩

end Frame

/-! ## Settlements -/

section Settle

variable {b b' : Books} {call : Call} {a : BillingAccount} {r : Reservation} {request : SettleRequest} {amount : Int}

@[simp] theorem usageOf_settled {now : Int} {x : Reservation} : usageOf x (settledUsage now a r request amount) = true ↔
    r.id = x.id ∨ (r.projectId = x.projectId ∧ r.requestId = x.requestId) := by
  simp [usageOf, settledUsage, String.append_right_inj]

@[simp] theorem chargeOf_settled {x : Reservation} :
    chargeOf x ((settledPosting r amount).transaction call a) = true ↔ r.id = x.id := by
  simp [chargeOf, Posting.transaction, settledPosting, String.append_right_inj]

/-- What a charge of a settlement leaves for the other reservations. -/
theorem Charged.others {b₁ : Books} (post : Charged call a amount (settledPosting r amount) b₁ b') {x : Reservation}
    (hx : r.id ≠ x.id) : b'.transactions.select (chargeOf x) = b₁.transactions.select (chargeOf x) := by
  rcases post with ⟨-, post⟩ | ⟨-, rfl⟩
  · obtain ⟨ts, es, es', h1, -, -, rfl⟩ := post.inserted
    show ts.select _ = _
    rw [Table.select_insert? h1, if_neg (by rw [chargeOf_settled]; exact hx)]
  · rfl

/-- What it leaves for its own. -/
theorem Charged.own {b₁ : Books} (post : Charged call a amount (settledPosting r amount) b₁ b') (bal : b₁.Balanced)
    (none : b₁.transactions.select (chargeOf r) = []) (hacc : a.id = r.billingAccountId) :
    (amount = 0 → b'.transactions.select (chargeOf r) = []) ∧
      (0 < amount → ∃ t debit credit, Debited b' r amount t debit credit) := by
  rcases post with ⟨hpos, post⟩ | ⟨hpos, rfl⟩
  · refine ⟨fun h0 => by omega, fun _ => ?_⟩
    obtain ⟨ts, es, es', h1, h2, h3, rfl⟩ := post.inserted
    refine ⟨_, _, _, ?_, entriesOf_new bal.owned h1 h2 h3 rfl rfl, hacc, rfl, rfl, rfl⟩
    show ts.select _ = _
    rw [Table.select_insert? h1, if_pos (chargeOf_settled.2 rfl), none]
  · exact ⟨fun _ => none, fun h0 => absurd h0 hpos⟩

/-- The settlement of a dispatched reservation. -/
theorem Books.Settles.settle {us : Table UsageRow} (h : b.Settles) (s : b.Sound) (o : b.Owned) (bal : b.Balanced)
    (ha : a ∈ b.accounts) (hp : a.projectId = r.projectId) (hr : r ∈ b.reservations) (hs : r.state = .dispatched)
    (hin : request.inputTokens ≤ r.spec.inputTokenLimit) (hout : request.outputTokens ≤ r.spec.outputTokenLimit)
    (cost : usageCostMicrounits r.price request.inputTokens request.outputTokens = .ok amount)
    (hi : b.usageEvents.insert? (settledUsage call.now a r request amount) = some us)
    (post : Charged call a amount (settledPosting r amount)
      { b with
        usageEvents := us
        reservations := b.reservations.put (settledReservation call.now r request amount) } b') :
    b'.Settles := by
  have terms := settled_terms call.now r request amount
  have hn : 0 ≤ amount := cost_nonneg (s.reservations r hr).1 cost
  have hacc := o.account_eq ha hr hp
  have before := h.unsettled r hr (by rw [hs]; simp)
  have hentries : ∀ t ∈ b.transactions, b'.entriesOf t.id = b.entriesOf t.id :=
    fun t ht => Posts.entriesOf (post.posts (k := .settle call.now) rfl rfl rfl) ht
  have hothers : ∀ x : Reservation, r.id ≠ x.id → b'.transactions.select (chargeOf x) =
      b.transactions.select (chargeOf x) :=
    fun x hx => post.others hx
  have hown := post.own (bal.congr rfl rfl) before.ledger hacc
  -- the only new charge for usage is that of the settlement
  have hledger : ∀ t ∈ b'.transactions, t.referenceType = .usageEvent → t ∈ b.transactions ∨
      t.referenceId = "evt-reservation-" ++ r.id := by
    intro t ht _
    rcases post with ⟨-, post⟩ | ⟨-, rfl⟩
    · obtain ⟨ts, es, es', h1, -, -, rfl⟩ := post.inserted
      rcases (Table.mem_insert? h1).1 ht with rfl | ht
      · exact .inr rfl
      · exact .inl ht
    · exact .inl ht
  obtain ⟨ts, es, rfl⟩ := post.eq
  -- the new usage event is of no other reservation, since a request has at most one
  have husage : ∀ x ∈ b.reservations, x.id ≠ r.id → us.select (usageOf x) = b.usageEvents.select (usageOf x) := by
    intro x hx hne
    rw [Table.select_insert? hi, if_neg]
    rw [usageOf_settled]
    rintro (e | ⟨e1, e2⟩)
    · exact hne e.symm
    · exact hne (congrArg Reservation.id (h.requests x hx r hr e1.symm e2.symm))
  refine ⟨requests_put h hr terms, fun u hu => ?_, fun t ht hk => ?_, fun x hx hst => ?_, fun x hx hst => ?_⟩
  · rcases (Table.mem_insert? hi).1 hu with rfl | hu
    · obtain ⟨x, hx, tx⟩ := put_there hr terms r hr
      exact ⟨x, hx, by rw [tx.id]; rfl⟩
    · obtain ⟨y, hy, hid⟩ := h.usage u hu
      obtain ⟨x, hx, tx⟩ := put_there hr terms y hy
      exact ⟨x, hx, by rw [tx.id]; exact hid⟩
  · rcases hledger t ht hk with ht | hid
    · obtain ⟨y, hy, hid⟩ := h.ledger t ht hk
      obtain ⟨x, hx, tx⟩ := put_there hr terms y hy
      exact ⟨x, hx, by rw [tx.id]; exact hid⟩
    · obtain ⟨x, hx, tx⟩ := put_there hr terms r hr
      exact ⟨x, hx, by rw [tx.id]; exact hid⟩
  · rcases Table.mem_put.1 hx with ⟨hx, hne⟩ | ⟨rfl, -⟩
    · exact (h.unsettled x hx hst).frame (husage x hx hne) (hothers x (Ne.symm hne))
    · exact absurd rfl hst
  · rcases Table.mem_put.1 hx with ⟨hx, hne⟩ | ⟨rfl, -⟩
    · obtain ⟨request', amount', u, st⟩ := h.settled x hx hst
      exact ⟨request', amount', u, st.frame (husage x hx hne) (hothers x (Ne.symm hne)) hentries⟩
    · refine ⟨request, amount, settledUsage call.now a r request amount, rfl, rfl, cost, hn,
        s.settled_le hr hin hout cost, ?_, ⟨rfl, rfl⟩, rfl, hown.1, fun hpos => ?_⟩
      · show us.select (usageOf r) = _
        rw [Table.select_insert? hi, if_pos (usageOf_settled.2 (.inl rfl)), before.usage]
      · obtain ⟨t, debit, credit, d⟩ := hown.2 hpos
        exact ⟨t, debit, credit, d.terms terms⟩

end Settle

/-! ## Runs -/

theorem Move.settles {k : Kind} {b b' : Books} (m : Move k b b') (hk : k.records = false) (s : b.Sound) (o : b.Owned)
    (bal : b.Balanced) (h : b.Settles) : b'.Settles := by
  have p := m.posts
  cases m with
  | registry g => exact h.frame p rfl g.reservations g.usageEvents
  | review reviews audits => exact h.frame p rfl rfl rfl
  | policy a ha flag => exact h.frame p rfl rfl rfl
  | reserve now a request entry key amount rs ha hp wf hm hid hk hkid cost fresh unused funds budget hi =>
    exact h.insert hi fresh unused rfl (by simp [newReservation])
  | dispatch now r hr hs => exact h.put hr (dispatched_terms now r) rfl (by simp [hs]) (by simp [dispatchedReservation])
  | release now r reason hr hs =>
    exact h.put hr (released_terms now r reason) rfl (by simp [hs]) (by simp [releasedReservation])
  | report now r request hr hs =>
    exact h.put hr (unresolved_terms now r request) rfl (by simp [hs]) (by simp [unresolvedReservation, hs])
  | settle call a r request amount us ha hp hr hs wf hin hout cost funds hi post =>
    exact h.settle s o bal ha hp hr hs hin hout cost hi post
  | waive now r hr hs =>
    exact h.put hr (waived_terms now r) rfl (fun e => by rw [e] at hs; cases hs) (by simp [waivedReservation])
  | usage call a e cost us ha hp unreserved priced funds hi post => cases hk
  | topUp call a o id provider reference currency key description ps ha hp ho hpend hfit hi post =>
    obtain ⟨ts, es, rfl⟩ := post.eq; exact h.frame p rfl rfl rfl
  | refund call a o p' row key description rs ha hp ho hpay hprov hrow hst hpos le limit funds hi post =>
    obtain ⟨ts, es, rfl⟩ := post.eq; exact h.frame p rfl rfl rfl
  | prepare call a o p' row key description rs ha hp ho hpay hprov hrow hst hpos limit funds hi post =>
    obtain ⟨ts, es, rfl⟩ := post.eq; exact h.frame p rfl rfl rfl
  | complete call a o p' row trade ha hp ho hpay hprov hrow hpid hst post =>
    obtain ⟨ts, es, rfl⟩ := post.eq; exact h.frame p rfl rfl rfl

theorem Books.Settles.empty : Db.empty.books.Settles :=
  ⟨fun r h => absurd h (Table.not_mem_empty r), fun u h => absurd h (Table.not_mem_empty u),
    fun t h => absurd h (Table.not_mem_empty t), fun r h => absurd h (Table.not_mem_empty r),
    fun r h => absurd h (Table.not_mem_empty r)⟩

theorem Moves.settles {ks : List Kind} {b b' : Books} (h : Moves ks b b') (hk : ∀ k ∈ ks, k.records = false)
    (s : b.Sound) (o : b.Owned) (bal : b.Balanced) (hb : b.Settles) : b'.Settles := by
  refine (h.keeps (I := fun b => (b.Sound ∧ b.Owned) ∧ b.Balanced ∧ b.Settles) ?_ ⟨⟨s, o⟩, bal, hb⟩).2.2
  rintro k hm b b' m ⟨⟨s, o⟩, bal, hb⟩
  exact ⟨⟨m.sound s, m.owned o⟩, m.posts.balanced bal, m.settles (hk k hm) s o bal hb⟩

theorem Op.no_usage {op : Op} (h : op.recordsUsage = false) : ∀ k ∈ op.kinds, k.records = false := by
  cases op with
  | recordUsage call e => cases h
  | _ => simp [Op.kinds, Kind.records]

/-- A sum over the held reservations is a sum of what each reservation holds in its state. -/
theorem sum_holds (rs : Table Reservation) (p : Reservation → Bool) :
    rs.sumWhere (fun r => p r && r.state.held) (·.reservedMicrounits) =
      rs.sumWhere p fun r => r.state.holds r.reservedMicrounits := by
  rw [Table.sumWhere_eq_total, Table.sumWhere_eq_total]
  refine Table.total_congr fun r _ => ?_
  unfold ReservationState.holds
  cases p r <;> simp

/-- Over any run of operations other than recorded usage, with any replays: every reservation
continues along its lifecycle with the terms it was created with, it is charged exactly when it is
settled, and the counters of its account and key count its hold exactly while it is held. -/
theorem Op.runAll_lifecycle (digests : Digests) (before ops : List Op)
    (protocol : ∀ op ∈ before ++ ops, op.recordsUsage = false) :
    let db := Op.runAll digests (before ++ ops) Db.empty
    Carried (Op.runAll digests before Db.empty).books db.books ∧
    ∀ r ∈ db.books.reservations,
      (r.state = .settled → ∃ request amount u, Settlement db.books r request amount u) ∧
      (r.state ≠ .settled → Uncharged db.books r) ∧
      (∃ row ∈ db.projections.balances, row.billingAccountId = r.billingAccountId ∧ row.heldMicrounits =
        db.books.reservations.sumWhere (fun x => x.billingAccountId == r.billingAccountId)
          fun x => x.state.holds x.reservedMicrounits) ∧
      ∃ row ∈ db.projections.keyHolds, row.apiKeyId = r.apiKeyId ∧ row.heldMicrounits =
        db.books.reservations.sumWhere (fun x => x.apiKeyId == r.apiKeyId) fun x =>
          x.state.holds x.reservedMicrounits := by
  intro db
  have g := Op.runAll_good digests (before ++ ops) Good.empty
  refine ⟨?_, fun r hr => ?_⟩
  · have hdb : db = Op.runAll digests ops (Op.runAll digests before Db.empty) := Op.runAll_append digests before ops _
    rw [hdb]
    exact (Op.runAll_moves digests ops (Op.runAll_good digests before Good.empty)).moves.carried
  · have none : ∀ k ∈ (before ++ ops).flatMap Op.kinds, k.records = false := fun k h => by
      obtain ⟨op, ho, hk⟩ := List.mem_flatMap.1 h
      exact Op.no_usage (protocol op ho) k hk
    have settles : db.books.Settles := (Op.runAll_moves digests (before ++ ops) Good.empty).moves.settles none
      Books.Sound.empty Good.empty.owned Books.Balanced.empty Books.Settles.empty
    obtain ⟨⟨row, hrow⟩, ⟨krow, hkrow⟩⟩ := g.covered.reservations r hr
    have hid : row.billingAccountId = r.billingAccountId := Table.get?_key hrow
    have hkid : krow.apiKeyId = r.apiKeyId := Table.get?_key hkrow
    refine ⟨settles.settled r hr, settles.unsettled r hr, ⟨row, Table.get?_mem hrow, hid, ?_⟩,
      ⟨krow, Table.get?_mem hkrow, hkid, ?_⟩⟩
    · rw [(g.shows.balances row (Table.get?_mem hrow)).2.1, hid]
      exact sum_holds _ _
    · rw [(g.shows.keyHolds krow (Table.get?_mem hkrow)).1, hkid]
      exact sum_holds _ _

/-- The sample request is settled, once and for the cost of its tokens. -/
theorem sample_settled : ∃ r ∈ (Op.runAll sampleDigests (sampleSetup ++ sampleRequestRun) Db.empty).books.reservations,
    r.id = "r1" ∧ ∃ request amount u,
      Settlement (Op.runAll sampleDigests (sampleSetup ++ sampleRequestRun) Db.empty).books r request amount u := by
  obtain ⟨-, lifecycle⟩ := Op.runAll_lifecycle sampleDigests sampleSetup sampleRequestRun (by decide)
  have hr : ("r1", ReservationState.settled) ∈ (Op.runAll sampleDigests (sampleSetup ++ sampleRequestRun)
      Db.empty).books.reservations.rows.map fun r => (r.id, r.state) := by decide +kernel
  obtain ⟨r, hm, he⟩ := List.mem_map.1 hr
  obtain ⟨hid, hst⟩ := Prod.mk.inj he
  exact ⟨r, hm, hid, (lifecycle r hm).1 hst⟩

end Xscope

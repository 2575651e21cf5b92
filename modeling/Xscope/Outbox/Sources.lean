/-
The producers of account events and their validator agree. An event is appended in the transaction
that writes its source, sources are never deleted and stay on their account; so every event passes
validation in the state it was appended in and in every later one.
-/
import Xscope.Billing.Journals
import Xscope.Billing.Keeping
import Xscope.Outbox.Fencing

namespace Xscope

/-! ## The source of an event -/

/-- The kinds of events about a reservation. -/
def reservationKinds : List String :=
  ["reservation.created", "reservation.dispatched", "reservation.released", "reservation.unresolved",
    "reservation.waived", "reservation.settled"]

/-- The kinds of events about a review. -/
def reviewKinds : List String := ["review.submitted", "review.settled", "review.rejected", "review.waived"]

/-- An event of an account with the given kind and aggregate has its source in the books. -/
inductive Sourced (b : Books) (account : String) : String → String → Prop
  | posted (t : LedgerTransaction) (e₁ e₂ : LedgerEntry) (ht : t ∈ b.transactions)
      (entries : b.entriesOf t.id = [e₁, e₂])
      (own₁ : e₁.billingAccountId = account) (own₂ : e₂.billingAccountId = account)
      (cancel : e₁.amountMicrounits + e₂.amountMicrounits = 0) : Sourced b account "ledger.posted" t.id
  | reservation {kind : String} (hk : kind ∈ reservationKinds) (r : Reservation) (hr : r ∈ b.reservations)
      (own : r.billingAccountId = account) : Sourced b account kind r.id
  | review {kind : String} (hk : kind ∈ reviewKinds) (v : BillingReview) (hv : v ∈ b.reviews) (r : Reservation)
      (hr : r ∈ b.reservations) (hid : r.id = v.reservationId) (own : r.billingAccountId = account) :
      Sourced b account kind v.id
  | rebuilt (aggregate : String) : Sourced b account "projection.rebuilt" aggregate

/-- No kind is checked by two rules. -/
theorem kinds_apart : (∀ kind ∈ reservationKinds, kind ≠ "ledger.posted") ∧
    ∀ kind ∈ reviewKinds, kind ≠ "ledger.posted" ∧ kind ∉ reservationKinds := by decide

/-- An event that has its source passes validation. -/
theorem Sourced.valid {db : Db} {event : BillingEvent}
    (h : Sourced db.books event.billingAccountId event.kind event.aggregateId) :
    validateEvent event db = .ok ((), db) := by
  obtain ⟨account, sequence, kind, aggregate, payload, createdAt⟩ := event
  simp only at h
  show (if kind = "ledger.posted" then _ else if reservationKinds.contains kind = true then _
    else if reviewKinds.contains kind = true then _
    else _ : DbTx Unit) db = _
  cases h with
  | posted t e₁ e₂ ht entries own₁ own₂ cancel =>
    rw [if_pos rfl, selectWhere_bind]
    change Tx.reject ((db.books.entriesOf t.id).length < 2 ∨ 100 < (db.books.entriesOf t.id).length ∨
      (db.books.entriesOf t.id).any (fun r => r.billingAccountId != account) = true ∨
      ((db.books.entriesOf t.id).map (·.amountMicrounits)).sum ≠ 0) _ db = _
    rw [entries]
    apply Tx.reject_of_not
    simp [own₁, own₂, cancel]
  | reservation hk r hr own =>
    rw [if_neg (kinds_apart.1 _ hk), if_pos (List.contains_iff_mem.2 hk)]
    simp only [findById_bind, Tx.expect_bind, Tx.reject_ok, not_not, and_true]
    exact ⟨r, Table.get?_of_mem hr, own⟩
  | review hk v hv r hr hid own =>
    obtain ⟨posted, reservation⟩ := kinds_apart.2 _ hk
    rw [if_neg posted, if_neg (by simpa using reservation), if_pos (List.contains_iff_mem.2 hk)]
    simp only [findById_bind, Tx.expect_bind, Tx.reject_ok, not_not, and_true]
    refine ⟨v, Table.get?_of_mem hv, r, ?_, own⟩
    rw [← hid]
    exact Table.get?_of_mem hr
  | rebuilt =>
    rw [if_neg (by decide), if_neg (by decide), if_neg (by decide)]
    exact Tx.reject_of_not (by simp)

/-! ## Sources stay -/

/-- What no decision changes of a review. -/
structure SameCase (old row : BillingReview) : Prop where
  id : row.id = old.id
  reservationId : row.reservationId = old.reservationId
  projectId : row.projectId = old.projectId

theorem SameCase.refl (v : BillingReview) : SameCase v v := ⟨rfl, rfl, rfl⟩

theorem SameCase.trans {a b c : BillingReview} (h : SameCase a b) (h' : SameCase b c) : SameCase a c :=
  ⟨h'.id.trans h.id, h'.reservationId.trans h.reservationId, h'.projectId.trans h.projectId⟩

/-- No source is lost or moved to another account. -/
structure Grown (b b' : Books) : Prop where
  transactions : ∀ t ∈ b.transactions, t ∈ b'.transactions ∧ b'.entriesOf t.id = b.entriesOf t.id
  reservations : ∀ r ∈ b.reservations, ∃ r' ∈ b'.reservations, SameTerms r r'
  reviews : ∀ v ∈ b.reviews, ∃ v' ∈ b'.reviews, SameCase v v'

theorem Grown.refl (b : Books) : Grown b b :=
  ⟨fun _ h => ⟨h, rfl⟩, fun r h => ⟨r, h, .refl r⟩, fun v h => ⟨v, h, .refl v⟩⟩

theorem Grown.trans {a b c : Books} (h : Grown a b) (h' : Grown b c) : Grown a c := by
  refine ⟨fun t ht => ?_, fun r hr => ?_, fun v hv => ?_⟩
  · obtain ⟨ht, he⟩ := h.transactions t ht
    obtain ⟨ht', he'⟩ := h'.transactions t ht
    exact ⟨ht', he'.trans he⟩
  · obtain ⟨r', hr', terms⟩ := h.reservations r hr
    obtain ⟨r'', hr'', terms'⟩ := h'.reservations r' hr'
    exact ⟨r'', hr'', terms.trans terms'⟩
  · obtain ⟨v', hv', same⟩ := h.reviews v hv
    obtain ⟨v'', hv'', same'⟩ := h'.reviews v' hv'
    exact ⟨v'', hv'', same.trans same'⟩

theorem Sourced.grown {b b' : Books} {account kind aggregate : String} (h : Sourced b account kind aggregate)
    (g : Grown b b') :
    Sourced b' account kind aggregate := by
  cases h with
  | posted t e₁ e₂ ht entries own₁ own₂ cancel =>
    obtain ⟨ht', same⟩ := g.transactions t ht
    exact .posted t e₁ e₂ ht' (same.trans entries) own₁ own₂ cancel
  | reservation hk r hr own =>
    obtain ⟨r', hr', terms⟩ := g.reservations r hr
    rw [← terms.id]
    exact .reservation hk r' hr' (terms.billingAccountId.trans own)
  | review hk v hv r hr hid own =>
    obtain ⟨v', hv', same⟩ := g.reviews v hv
    obtain ⟨r', hr', terms⟩ := g.reservations r hr
    rw [← same.id]
    exact .review hk v' hv' r' hr' (terms.id.trans (hid.trans same.reservationId.symm))
      (terms.billingAccountId.trans own)
  | rebuilt aggregate => exact .rebuilt aggregate

/-- Every event has its source, every entry its transaction, and every review its reservation. -/
structure Db.Accepted (db : Db) : Prop where
  events : ∀ e ∈ db.outbox.events, Sourced db.books e.billingAccountId e.kind e.aggregateId
  owned : ∀ e ∈ db.books.entries, ∃ t ∈ db.books.transactions, t.id = e.transactionId
  attached : ∀ v ∈ db.books.reviews, ∃ r ∈ db.books.reservations, r.id = v.reservationId ∧ r.projectId = v.projectId

theorem Db.Accepted.empty : Db.empty.Accepted :=
  ⟨fun e h => absurd h (Table.not_mem_empty e), fun e h => absurd h (Table.not_mem_empty e),
    fun v h => absurd h (Table.not_mem_empty v)⟩

/-- What a transaction makes of the sources and the events. -/
structure Sources (db db' : Db) : Prop where
  accepted : db.Accepted → db'.Accepted
  grown : Grown db.books db'.books

instance : IsPreorder Db Sources where
  refl _ := ⟨id, .refl _⟩
  trans _ _ _ h h' := ⟨h'.accepted ∘ h.accepted, h.grown.trans h'.grown⟩

section Writes

variable {db db' : Db} {call : Call} {account kind aggregate : String} {payload : EventPayload}

/-- Writes of other tables. -/
theorem Sources.of_eq (transactions : db'.books.transactions = db.books.transactions)
    (entries : db'.books.entries = db.books.entries) (reservations : db'.books.reservations = db.books.reservations)
    (reviews : db'.books.reviews = db.books.reviews) (outbox : db'.outbox = db.outbox) : Sources db db' := by
  have grown : Grown db.books db'.books := by
    refine ⟨fun t ht => ⟨by rw [transactions]; exact ht, by unfold Books.entriesOf; rw [entries]⟩,
      fun r hr => ⟨r, ?_, .refl r⟩, fun v hv => ⟨v, ?_, .refl v⟩⟩
    · rw [reservations]; exact hr
    · rw [reviews]; exact hv
  refine ⟨fun h => ⟨fun e he => (h.events e ?_).grown grown, ?_, ?_⟩, grown⟩
  · rw [← outbox]; exact he
  · rw [entries, transactions]; exact h.owned
  · rw [reviews, reservations]; exact h.attached

/-- The event appended last, beside the events of before. -/
theorem appendEvent_events {r : Unit × Db} (h : appendEvent call account kind aggregate payload db = .ok r) :
    ∃ o, r.2 = db.withOutbox o ∧ ∀ e ∈ o.events, e ∈ db.outbox.events ∨
      e.billingAccountId = account ∧ e.kind = kind ∧ e.aggregateId = aggregate := by
  unfold appendEvent schedule at h
  simp only [Tx.read_bind, Tx.expect_bind, insertRow_bind, findById_bind, Tx.reject_bind, Tx.write_ok] at h
  obtain ⟨_, -, -, events, hi, -, rfl⟩ := h
  refine ⟨_, rfl, fun e he => ?_⟩
  rcases (Table.mem_insert? hi).1 he with rfl | he
  · exact .inr ⟨rfl, rfl, rfl⟩
  · exact .inl he

/-- An event is appended whose source is there. -/
theorem Sources.append {r : Unit × Db} (h : appendEvent call account kind aggregate payload db = .ok r)
    (source : db.Accepted → Sourced db.books account kind aggregate) : Sources db r.2 := by
  obtain ⟨o, ho, events⟩ := appendEvent_events h
  rw [ho]
  refine ⟨fun ok => ⟨fun e he => ?_, ok.owned, ok.attached⟩, .refl _⟩
  rcases events e he with he | ⟨rfl, rfl, rfl⟩
  · exact ok.events e he
  · exact source ok

/-- A reservation moves on under its terms. -/
theorem Sources.putReservation {row : Reservation} (there : ∃ old ∈ db.books.reservations, SameTerms old row) :
    Sources db (Slot.reservations.set (db.books.reservations.put row) db) := by
  obtain ⟨old, ho, terms⟩ := there
  have moved : ∀ r ∈ db.books.reservations, ∃ r' ∈ db.books.reservations.put row, SameTerms r r' := by
    intro r hr
    by_cases hk : key r = key row
    · have : r = old := Table.eq_of_key hr ho (hk.trans terms.id)
      subst this
      exact ⟨row, Table.mem_put.2 (.inr ⟨rfl, r, ho, hk⟩), terms⟩
    · exact ⟨r, Table.mem_put.2 (.inl ⟨hr, hk⟩), .refl r⟩
  have grown : Grown db.books { db.books with reservations := db.books.reservations.put row } :=
    ⟨fun _ h => ⟨h, rfl⟩, moved, fun v h => ⟨v, h, .refl v⟩⟩
  refine ⟨fun ok => ⟨fun e he => (ok.events e he).grown grown, ok.owned, fun v hv => ?_⟩, grown⟩
  obtain ⟨r, hr, id, project⟩ := ok.attached v hv
  obtain ⟨r', hr', terms⟩ := moved r hr
  exact ⟨r', hr', terms.id.trans id, terms.projectId.trans project⟩

theorem Sources.insertReservation {row : Reservation} {rs : Table Reservation}
    (hi : db.books.reservations.insert? row = some rs) :
    Sources db (Slot.reservations.set rs db) := by
  have grown : Grown db.books { db.books with reservations := rs } :=
    ⟨fun _ h => ⟨h, rfl⟩, fun r h => ⟨r, (Table.mem_insert? hi).2 (.inr h), .refl r⟩, fun v h => ⟨v, h, .refl v⟩⟩
  refine ⟨fun ok => ⟨fun e he => (ok.events e he).grown grown, ok.owned, fun v hv => ?_⟩, grown⟩
  obtain ⟨r, hr, of⟩ := ok.attached v hv
  exact ⟨r, (Table.mem_insert? hi).2 (.inr hr), of⟩

theorem Sources.insertReview {row : BillingReview} {vs : Table BillingReview}
    (hi : db.books.reviews.insert? row = some vs)
    (there : ∃ r ∈ db.books.reservations, r.id = row.reservationId ∧ r.projectId = row.projectId) :
    Sources db (Slot.reviews.set vs db) := by
  have grown : Grown db.books { db.books with reviews := vs } :=
    ⟨fun _ h => ⟨h, rfl⟩, fun r h => ⟨r, h, .refl r⟩, fun v h => ⟨v, (Table.mem_insert? hi).2 (.inr h), .refl v⟩⟩
  refine ⟨fun ok => ⟨fun e he => (ok.events e he).grown grown, ok.owned, fun v hv => ?_⟩, grown⟩
  rcases (Table.mem_insert? hi).1 hv with rfl | hv
  · exact there
  · exact ok.attached v hv

/-- A review is decided. -/
theorem Sources.putReview {row : BillingReview} (there : ∃ old ∈ db.books.reviews, SameCase old row) :
    Sources db (Slot.reviews.set (db.books.reviews.put row) db) := by
  obtain ⟨old, ho, case⟩ := there
  have grown : Grown db.books { db.books with reviews := db.books.reviews.put row } := by
    refine ⟨fun _ h => ⟨h, rfl⟩, fun r h => ⟨r, h, .refl r⟩, fun v hv => ?_⟩
    by_cases hk : key v = key row
    · have : v = old := Table.eq_of_key hv ho (hk.trans case.id)
      subst this
      exact ⟨row, Table.mem_put.2 (.inr ⟨rfl, v, hv, hk⟩), case⟩
    · exact ⟨v, Table.mem_put.2 (.inl ⟨hv, hk⟩), .refl v⟩
  refine ⟨fun ok => ⟨fun e he => (ok.events e he).grown grown, ok.owned, fun v hv => ?_⟩, grown⟩
  rcases Table.mem_put.1 hv with ⟨hv, -⟩ | ⟨rfl, -⟩
  · exact ok.attached v hv
  · obtain ⟨r, hr, id, project⟩ := ok.attached old ho
    exact ⟨r, hr, id.trans case.reservationId.symm, project.trans case.projectId.symm⟩

/-- A journal is written. -/
theorem Sources.journal {txn : LedgerTransaction} {e₁ e₂ : LedgerEntry} {ts : Table LedgerTransaction}
    {es es' : Table LedgerEntry} (transactions : db.books.transactions.insert? txn = some ts)
    (first : db.books.entries.insert? e₁ = some es) (second : es.insert? e₂ = some es')
    (owner₁ : e₁.transactionId = txn.id) (owner₂ : e₂.transactionId = txn.id) :
    Sources db { db with books := { db.books with transactions := ts, entries := es' } } := by
  let b' : Books := { db.books with transactions := ts, entries := es' }
  have grown : Grown db.books b' := by
    refine ⟨fun t ht => ⟨(Table.mem_insert? transactions).2 (.inr ht), ?_⟩, fun r h => ⟨r, h, .refl r⟩,
      fun v h => ⟨v, h, .refl v⟩⟩
    exact entriesOf_old ht transactions first second owner₁ owner₂
  refine ⟨fun ok => ⟨fun e he => (ok.events e he).grown grown, fun e he => ?_, ok.attached⟩, grown⟩
  have own : txn ∈ ts := (Table.mem_insert? transactions).2 (.inl rfl)
  rcases (Table.mem_insert? second).1 he with rfl | he
  · exact ⟨txn, own, owner₂.symm⟩
  · rcases (Table.mem_insert? first).1 he with rfl | he
    · exact ⟨txn, own, owner₁.symm⟩
    · obtain ⟨t, ht, id⟩ := ok.owned e he
      exact ⟨t, (Table.mem_insert? transactions).2 (.inr ht), id⟩

/-- A journal is written with its event. -/
theorem Sources.post {txn : LedgerTransaction} {e₁ e₂ : LedgerEntry} {ts : Table LedgerTransaction}
    {es es' : Table LedgerEntry} (transactions : db.books.transactions.insert? txn = some ts)
    (first : db.books.entries.insert? e₁ = some es) (second : es.insert? e₂ = some es')
    (owner₁ : e₁.transactionId = txn.id) (owner₂ : e₂.transactionId = txn.id) (own₁ : e₁.billingAccountId = account)
    (own₂ : e₂.billingAccountId = account) (cancel : e₁.amountMicrounits + e₂.amountMicrounits = 0) {r : Unit × Db}
    (h : appendEvent call account "ledger.posted" txn.id payload
      { db with books := { db.books with transactions := ts, entries := es' } } = .ok r) : Sources db r.2 := by
  have written : Sources db { db with books := { db.books with transactions := ts, entries := es' } } :=
    .journal transactions first second owner₁ owner₂
  refine ⟨fun ok => (Sources.append h fun _ => ?_).accepted (written.accepted ok), ?_⟩
  · refine .posted txn e₂ e₁ ((Table.mem_insert? transactions).2 (.inl rfl)) ?_ own₂ own₁
      (by rw [add_comm]; exact cancel)
    exact entriesOf_new ok.owned transactions first second owner₁ owner₂
  · obtain ⟨o, ho, -⟩ := appendEvent_events h
    rw [ho]
    exact written.grown

end Writes

/-! ## What keeps the sources -/

instance : Slot.projects.Kept Sources := ⟨fun _ _ => .of_eq rfl rfl rfl rfl rfl⟩

instance : Slot.apiKeys.Kept Sources := ⟨fun _ _ => .of_eq rfl rfl rfl rfl rfl⟩

instance : Quiet Sources where
  accounts := ⟨fun _ _ => .of_eq rfl rfl rfl rfl rfl⟩
  usageEvents := ⟨fun _ _ => .of_eq rfl rfl rfl rfl rfl⟩
  orders := ⟨fun _ _ => .of_eq rfl rfl rfl rfl rfl⟩
  payments := ⟨fun _ _ => .of_eq rfl rfl rfl rfl rfl⟩
  refunds := ⟨fun _ _ => .of_eq rfl rfl rfl rfl rfl⟩
  checkouts := ⟨fun _ _ => .of_eq rfl rfl rfl rfl rfl⟩
  receipts := ⟨fun _ _ => .of_eq rfl rfl rfl rfl rfl⟩
  reviewAudits := ⟨fun _ _ => .of_eq rfl rfl rfl rfl rfl⟩
  balances := ⟨fun _ _ => .of_eq rfl rfl rfl rfl rfl⟩
  keyHolds := ⟨fun _ _ => .of_eq rfl rfl rfl rfl rfl⟩
  monthSpends := ⟨fun _ _ => .of_eq rfl rfl rfl rfl rfl⟩

instance : Slot.catalog.Kept Sources := ⟨fun _ _ => .of_eq rfl rfl rfl rfl rfl⟩
instance : Slot.prices.Kept Sources := ⟨fun _ _ => .of_eq rfl rfl rfl rfl rfl⟩

instance : Ledgered Sources where
  posted call a p := by
    refine ⟨fun db u db' h => ?_⟩
    unfold insertBalancedEntries at h
    simp only [Tx.reject_bind, lockAccount_bind] at h
    obtain ⟨-, owner, -, h⟩ := h
    obtain ⟨_, s, h1, h2⟩ := Tx.bind_ok.1 h
    obtain ⟨_, s', h3, h4⟩ := Tx.bind_ok.1 h2
    simp only [insertRow_bind] at h4
    obtain ⟨-, ts, hts, -, es, hes, -, es', hes', h5⟩ := h4
    have posted : Sources s' (u, db').2 := .post hts hes hes' rfl rfl rfl rfl (Int.add_right_neg _) h5
    exact trans_of Sources (trans_of Sources (Keeping.within db _ s h1) (Keeping.within s _ s' h3)) posted
  cleared call a o row := by
    refine ⟨fun db u db' h => ?_⟩
    unfold clearPendingRefund at h
    simp only [insertRow_bind, Tx.expect_bind] at h
    obtain ⟨-, ts, hts, amount, -, -, es, hes, -, es', hes', h5⟩ := h
    exact Sources.post hts hes hes' rfl rfl rfl rfl (Int.add_left_neg _) h5

/-! ## The operations that append events of their own -/

section Operations

variable {db : Db} {call : Call} {project id : String}

/-- A reservation moves on and its event is appended. -/
theorem Sources.move (row : Reservation) {account kind : String} {payload : EventPayload} {r : Unit × Db}
    (there : ∃ old ∈ db.books.reservations, SameTerms old row) (hk : kind ∈ reservationKinds)
    (own : row.billingAccountId = account)
    (h : appendEvent call account kind row.id payload (Slot.reservations.set (db.books.reservations.put row) db) =
    .ok r) :
    Sources db r.2 := by
  obtain ⟨old, ho, terms⟩ := there
  refine trans_of Sources (Sources.putReservation ⟨old, ho, terms⟩) (.append h fun _ => .reservation hk row ?_ own)
  exact Table.mem_put.2 (.inr ⟨rfl, old, ho, terms.id.symm⟩)

theorem unresolvedMoney_sources {request : UnresolvedRequest} {r : Reservation × Db} (o : db.books.Owned)
    (h : unresolvedMoney call project id request db = .ok r) : Sources db r.2 := by
  unfold unresolvedMoney at h
  simp only [Tx.reject_bind, lockAccount_bind, findReservation_bind] at h
  obtain ⟨-, a, ha, row, hr, rfl, hp, h⟩ := h
  obtain ⟨ha, hap⟩ := account_of_find ha
  split at h
  · cases Tx.pure_ok.1 h; exact refl_of Sources db
  · simp only [Tx.reject_bind] at h
    obtain ⟨-, h⟩ := h
    cases hc : row.completion with
    | some previous =>
      rw [hc] at h
      simp only [Tx.reject_bind] at h
      cases Tx.pure_ok.1 h.2; exact refl_of Sources db
    | none =>
      rw [hc] at h
      simp only [updateRow_bind] at h
      obtain ⟨_, s, h1, h2⟩ := Tx.bind_ok.1 h
      cases Tx.pure_ok.1 h2
      exact .move (unresolvedReservation call.now row request) ⟨row, hr, unresolved_terms _ _ _⟩ (by decide)
        (o.account_eq ha hr (hap.trans hp.symm)).symm h1

theorem dispatchMoney_sources {r : Reservation × Db} (o : db.books.Owned)
    (h : dispatchMoney call project id db = .ok r) :
    Sources db r.2 := by
  unfold dispatchMoney at h
  simp only [lockAccount_bind, findReservation_bind] at h
  obtain ⟨a, ha, row, hr, rfl, hp, h⟩ := h
  obtain ⟨ha, hap⟩ := account_of_find ha
  split at h
  · cases Tx.pure_ok.1 h; exact refl_of Sources db
  · simp only [Tx.reject_bind, updateRow_bind] at h
    obtain ⟨-, h⟩ := h
    obtain ⟨_, s, h1, h2⟩ := Tx.bind_ok.1 h
    cases Tx.pure_ok.1 h2
    exact .move (dispatchedReservation call.now row) ⟨row, hr, dispatched_terms _ _⟩ (by decide)
      (o.account_eq ha hr (hap.trans hp.symm)).symm h1

theorem releaseMoney_sources {request : ReleaseRequest} {r : Reservation × Db} (o : db.books.Owned)
    (h : releaseMoney call project id request db = .ok r) : Sources db r.2 := by
  unfold releaseMoney at h
  simp only [Tx.reject_bind, lockAccount_bind, findReservation_bind] at h
  obtain ⟨-, a, ha, row, hr, rfl, hp, h⟩ := h
  obtain ⟨ha, hap⟩ := account_of_find ha
  split at h
  · cases Tx.pure_ok.1 h; exact refl_of Sources db
  · simp only [Tx.reject_bind] at h
    obtain ⟨-, h⟩ := h
    obtain ⟨_, s, h1, h2⟩ := Tx.bind_ok.1 h
    have held : Sources db s := Keeping.within db _ s h1
    obtain ⟨row', hr', terms⟩ := held.grown.reservations row hr
    rw [updateRow_bind] at h2
    obtain ⟨_, s', h3, h4⟩ := Tx.bind_ok.1 h2
    cases Tx.pure_ok.1 h4
    refine trans_of Sources held (.move (releasedReservation call.now row request.reason)
      ⟨row', hr', terms.symm.trans (released_terms _ _ _)⟩ (by decide) (o.account_eq ha hr (hap.trans hp.symm)).symm h3)

/-- A settlement posts its charge between the move and its event. -/
theorem settleLocked_sources {a : BillingAccount} {row : Reservation} {request : SettleRequest} {r : Reservation × Db}
    (hr : row ∈ db.books.reservations) (own : row.billingAccountId = a.id)
    (h : settleLocked call a row request db = .ok r) :
    Sources db r.2 := by
  unfold settleLocked at h
  simp only [Tx.reject_bind] at h
  obtain ⟨-, h⟩ := h
  split at h
  · simp only [Tx.reject_bind] at h
    cases Tx.pure_ok.1 h.2; exact refl_of Sources db
  · simp only [Tx.reject_bind, checkDomain_bind] at h
    obtain ⟨-, -, amount, -, h⟩ := h
    obtain ⟨spend, s, h1, h2⟩ := Tx.bind_ok.1 h
    obtain ⟨_, s1, h3, h4⟩ := Tx.bind_ok.1 h2
    obtain ⟨_, s2, h5, h6⟩ := Tx.bind_ok.1 h4
    obtain ⟨_, s3, h7, h8⟩ := Tx.bind_ok.1 h6
    have before : Sources db s3 := trans_of Sources
      (trans_of Sources (Keeping.within db _ s h1) (Keeping.within s _ s1 h3))
      (trans_of Sources (Keeping.within s1 _ s2 h5) (Keeping.within s2 _ s3 h7))
    obtain ⟨row', hr', terms⟩ := before.grown.reservations row hr
    rw [updateRow_bind] at h8
    have moved : Sources s3
        (Slot.reservations.set (s3.books.reservations.put (settledReservation call.now row request amount)) s3) :=
      .putReservation ⟨row', hr', terms.symm.trans (settled_terms _ _ _ _)⟩
    obtain ⟨_, s4, h9, h10⟩ := Tx.bind_ok.1 h8
    have charged : Sources _ s4 := Keeping.within _ _ s4 h9
    obtain ⟨_, s5, h11, h12⟩ := Tx.bind_ok.1 h10
    cases Tx.pure_ok.1 h12
    have reached : Sources db s4 := trans_of Sources before (trans_of Sources moved charged)
    refine trans_of Sources reached (.append h11 fun _ => ?_)
    obtain ⟨row'', hr'', terms'⟩ := reached.grown.reservations row hr
    rw [← terms'.id]
    exact .reservation (by decide) row'' hr'' (terms'.billingAccountId.trans own)

theorem settleMoney_sources {request : SettleRequest} {r : Reservation × Db} (o : db.books.Owned)
    (h : settleMoney call project id request db = .ok r) : Sources db r.2 := by
  unfold settleMoney at h
  simp only [lockAccount_bind, findReservation_bind] at h
  obtain ⟨a, ha, row, hr, rfl, hp, h⟩ := h
  obtain ⟨ha, hap⟩ := account_of_find ha
  exact settleLocked_sources hr (o.account_eq ha hr (hap.trans hp.symm)).symm h

theorem reserveMoney_sources {request : ReserveRequest} {r : Reservation × Db}
    (h : reserveMoney call request db = .ok r) :
    Sources db r.2 := by
  unfold reserveMoney at h
  simp only [Tx.reject_bind, lockAccount_bind, findById_bind] at h
  obtain ⟨-, a, -, -, h⟩ := h
  cases hg : (Slot.reservations.get db).get? request.id with
  | some existing =>
    rw [hg] at h
    simp only [Tx.reject_bind] at h
    cases Tx.pure_ok.1 h.2; exact refl_of Sources db
  | none =>
    rw [hg] at h
    unfold admitReservation at h
    simp only [Tx.reject_bind, findById_bind, Tx.expect_bind, activeModel_bind, findWhere_bind, checkDomain_bind] at h
    obtain ⟨-, k, -, -, entry, -, -, -, -, -, amount, -, h⟩ := h
    obtain ⟨_, s, h1, h2⟩ := Tx.bind_ok.1 h
    obtain ⟨_, s1, h3, h4⟩ := Tx.bind_ok.1 h2
    obtain ⟨_, s2, h5, h6⟩ := Tx.bind_ok.1 h4
    have before : Sources db s2 := trans_of Sources (Keeping.within db _ s h1)
      (trans_of Sources (Keeping.within s _ s1 h3) (Keeping.within s1 _ s2 h5))
    simp only [insertRow_bind] at h6
    obtain ⟨-, rs, hi, h6⟩ := h6
    obtain ⟨_, s3, h7, h8⟩ := Tx.bind_ok.1 h6
    cases Tx.pure_ok.1 h8
    refine trans_of Sources before (trans_of Sources (.insertReservation hi) (.append h7 fun _ => ?_))
    exact .reservation (by decide) _ ((Table.mem_insert? hi).2 (.inl rfl)) rfl

section Reviews

variable {digests : Digests} {actor subject : String}

theorem submitReview_sources {submission : Submission} {reservationId : String} {r : BillingReview × Db}
    (o : db.books.Owned) (h : submitReview digests call project reservationId actor subject submission db = .ok r) :
    Sources db r.2 := by
  unfold submitReview at h
  simp only [lockAccount_bind, findById_bind] at h
  obtain ⟨a, ha, h⟩ := h
  obtain ⟨ha, hap⟩ := account_of_find ha
  cases hg : (Slot.reviews.get db).get? submission.id with
  | some existing =>
    rw [hg] at h
    simp only [Tx.reject_bind] at h
    cases Tx.pure_ok.1 h.2; exact refl_of Sources db
  | none =>
    rw [hg] at h
    simp only [findReservation_bind, Tx.reject_bind, insertRow_bind, appendAudit] at h
    obtain ⟨held, hr, rfl, hp, -, -, reviews, hreviews, -, audits, haudits, h⟩ := h
    obtain ⟨_, s, h1, h2⟩ := Tx.bind_ok.1 h
    cases Tx.pure_ok.1 h2
    let row := newReview digests project held.id actor submission
    have inserted : Sources db (Slot.reviews.set reviews db) := .insertReview hreviews ⟨held, hr, rfl, hp⟩
    have audited : Sources (Slot.reviews.set reviews db)
      (Slot.reviewAudits.set audits (Slot.reviews.set reviews db)) := Slot.Kept.set _ _
    refine trans_of Sources (trans_of Sources inserted audited) (.append h1 fun _ => ?_)
    exact .review (by decide) row ((Table.mem_insert? hreviews).2 (.inl rfl)) held hr rfl
      (o.account_eq ha hr (hap.trans hp.symm)).symm

theorem waiveReservation_sources {a : BillingAccount} {held : Reservation} {review : BillingReview} {r : Unit × Db}
    (hr : held ∈ db.books.reservations) (own : held.billingAccountId = a.id)
    (h : waiveReservation call a held review actor db = .ok r) : Sources db r.2 := by
  unfold waiveReservation at h
  simp only [Tx.reject_bind] at h
  obtain ⟨-, h⟩ := h
  obtain ⟨_, s, h1, h2⟩ := Tx.bind_ok.1 h
  have before : Sources db s := Keeping.within db _ s h1
  obtain ⟨row', hr', terms⟩ := before.grown.reservations held hr
  rw [updateRow_bind] at h2
  exact trans_of Sources before (.move (waivedReservation call.now held)
    ⟨row', hr', terms.symm.trans (waived_terms _ _)⟩
    (by decide) own h2)

theorem applyDecision_sources {a : BillingAccount} {review : BillingReview} {approve : Bool} {r : Unit × Db}
    (o : db.books.Owned) (ha : a ∈ db.books.accounts) (hap : a.projectId = project)
    (h : applyDecision call a project review actor approve db = .ok r) :
    Sources db r.2 := by
  unfold applyDecision at h
  split at h
  · unfold approveReview at h
    simp only [findReservation_bind] at h
    obtain ⟨held, hr, -, hp, h⟩ := h
    have own : held.billingAccountId = a.id := (o.account_eq ha hr (hap.trans hp.symm)).symm
    cases hev : review.evidence with
    | waiver w =>
      rw [hev] at h
      exact waiveReservation_sources hr own h
    | evidence e =>
      rw [hev] at h
      obtain ⟨_, s, h1, h2⟩ := Tx.bind_ok.1 h
      cases Tx.pure_ok.1 h2
      exact settleLocked_sources (r := (_, s)) hr own h1
  · cases Tx.pure_ok.1 h; exact refl_of Sources db

theorem decidedKind_mem (approve waiver : Bool) : decidedKind approve waiver ∈ reviewKinds := by
  cases approve <;> cases waiver <;> decide

theorem decideBillingReview_sources {request : DecisionRequest} {r : BillingReview × Db} (o : db.books.Owned)
    (ok : db.Accepted) (h : decideBillingReview call project id actor subject request db = .ok r) : Sources db r.2 := by
  unfold decideBillingReview at h
  simp only [Tx.reject_bind, lockAccount_bind, findById_bind, Tx.expect_bind] at h
  obtain ⟨-, a, ha, row, hrow, -, -, h⟩ := h
  obtain ⟨ha, hap⟩ := account_of_find ha
  obtain ⟨hget, hproj⟩ := Option.filter_eq_some_iff.1 hrow
  have hproj : row.projectId = project := by simpa using hproj
  obtain ⟨hm, rfl⟩ := Table.get?_some_iff.1 hget
  split at h
  · simp only [Tx.reject_bind] at h
    cases Tx.pure_ok.1 h.2; exact refl_of Sources db
  · obtain ⟨_, s, h1, h2⟩ := Tx.bind_ok.1 h
    simp only [updateRow_bind, insertRow_bind, appendAudit] at h2
    obtain ⟨-, audits, haudits, h2⟩ := h2
    obtain ⟨_, s', h3, h4⟩ := Tx.bind_ok.1 h2
    cases Tx.pure_ok.1 h4
    have applied : Sources db s := applyDecision_sources o ha hap h1
    let decided := decidedReview row (request.action == "approve") actor request
    obtain ⟨v, hv, case⟩ := applied.grown.reviews row hm
    have written : Sources s (Slot.reviews.set (s.books.reviews.put decided) s) :=
      .putReview ⟨v, hv, case.id.symm, case.reservationId.symm, case.projectId.symm⟩
    have audited : Sources (Slot.reviews.set (s.books.reviews.put decided) s)
        (Slot.reviewAudits.set audits (Slot.reviews.set (s.books.reviews.put decided) s)) := Slot.Kept.set _ _
    have reached := trans_of Sources applied (trans_of Sources written audited)
    refine trans_of Sources reached (.append h3 fun _ => ?_)
    -- a rejection looks no reservation up: the one of the review was checked when it was submitted
    obtain ⟨held, hr, hid, hp⟩ := ok.attached row hm
    have source : Sourced db.books a.id (decidedKind (request.action == "approve") row.evidence.isWaiver) row.id :=
      .review (decidedKind_mem _ _) row hm held hr hid (o.account_eq ha hr (hap.trans (hproj.symm.trans hp.symm))).symm
    exact source.grown reached.grown

end Reviews

theorem projectionCheck_sources {request : CheckRequest} {rebuild : Bool} {r : CheckReport × Db}
    (h : projectionCheck call project request rebuild db = .ok r) : Sources db r.2 := by
  unfold projectionCheck at h
  simp only [Tx.reject_bind, lockAccount_bind, findById_bind, Tx.expect_bind] at h
  obtain ⟨-, owner, -, k, -, h⟩ := h
  obtain ⟨_, s, h1, h⟩ := Tx.bind_ok.1 h
  obtain ⟨_, s1, h2, h⟩ := Tx.bind_ok.1 h
  obtain ⟨_, s2, h3, h⟩ := Tx.bind_ok.1 h
  have before : Sources db s2 := trans_of Sources (Keeping.within db _ s h1)
    (trans_of Sources (Keeping.within s _ s1 h2) (Keeping.within s1 _ s2 h3))
  simp only [findById_bind] at h
  refine trans_of Sources before ?_
  split at h
  · obtain ⟨_, s3, h4, h⟩ := Tx.bind_ok.1 h
    obtain ⟨_, s4, h5, h6⟩ := Tx.bind_ok.1 h
    cases Tx.pure_ok.1 h6
    exact trans_of Sources (Keeping.within s2 _ s3 h4) (.append h5 fun _ => .rebuilt _)
  · cases Tx.pure_ok.1 h; exact refl_of Sources s2

end Operations

/-! ## Runs -/

theorem Sources.commit {α : Type} {x : DbTx α} {db : Db} (h : ∀ r, x db = .ok r → Sources db r.2) :
    Sources db (Tx.commit x db).2 := by
  rcases Tx.commit_cases x db with ⟨a, s, hx, hc⟩ | ⟨e, -, hc⟩
  · rw [hc]; exact h (a, s) hx
  · rw [hc]; exact refl_of Sources db

theorem Op.sources (digests : Digests) (op : Op) {db : Db} (g : Good db.books db.projections) (ok : db.Accepted) :
    Sources db (op.run digests db) := by
  cases op with
  | projectBalance project => exact projectBalance_keeps project db
  | updateBalancePolicy project flag => exact updateBalancePolicy_keeps project flag db
  | projectionCheck call project request rebuild => exact .commit fun _ h => projectionCheck_sources h
  | reserve call request => exact .commit fun _ h => reserveMoney_sources h
  | dispatch call project id => exact .commit fun _ h => dispatchMoney_sources g.owned h
  | release call project id request => exact .commit fun _ h => releaseMoney_sources g.owned h
  | settle call project id request => exact .commit fun _ h => settleMoney_sources g.owned h
  | unresolved call project id request => exact .commit fun _ h => unresolvedMoney_sources g.owned h
  | submitEvidence call project reservationId actor subject request =>
    refine .commit fun _ h => ?_
    unfold submitBillingEvidence at h
    exact submitReview_sources g.owned (checkRequest_bind.1 h).2
  | submitWaiver call project reservationId actor subject request =>
    refine .commit fun _ h => ?_
    unfold submitBillingWaiver at h
    exact submitReview_sources g.owned (checkRequest_bind.1 h).2
  | decideReview call project id actor subject request =>
    exact .commit fun _ h => decideBillingReview_sources g.owned ok h
  | recordUsage call event => exact recordUsage_keeps call event db
  | _ => exact Keeping.commit _ db

section Workers

variable {digests : Digests} {db : Db}

/-- A worker call writes the outbox alone, and no event. -/
theorem worked_sources (digests : Digests) {α : Type} {op : WorkerOp} {x : DbTx α}
    (h : ∀ r, x db = .ok r → ∃ o, r.2 = db.withOutbox o ∧ Worked digests db.outbox op o) :
    (Tx.commit x db).2.books = db.books ∧ (Tx.commit x db).2.projections = db.projections ∧
      (Tx.commit x db).2.outbox.events = db.outbox.events := by
  rcases Tx.commit_cases x db with ⟨a, s, hx, hc⟩ | ⟨e, -, hc⟩
  · obtain ⟨o, ho, worked⟩ := h (a, s) hx
    rw [hc]
    simp only at ho ⊢
    subst ho
    refine ⟨rfl, rfl, ?_⟩
    cases worked <;> rfl
  · rw [hc]
    exact ⟨rfl, rfl, rfl⟩

theorem WorkerOp.sources (op : WorkerOp) (s : db.outbox.Sound digests) :
    (op.run digests db).books = db.books ∧ (op.run digests db).projections = db.projections ∧
      (op.run digests db).outbox.events = db.outbox.events := by
  cases op with
  | claim => exact worked_sources digests fun _ h => claimEventJob_ok h
  | complete => exact worked_sources digests fun _ h => completeEventJob_ok h s
  | fail => exact worked_sources digests fun _ h => failEventJob_ok h
  | retry => exact worked_sources digests fun _ h => retryEventJob_ok h

/-- What holds of the events in every reachable database. -/
structure Db.Agrees (digests : Digests) (db : Db) : Prop where
  good : Good db.books db.projections
  accepted : db.Accepted
  sound : db.outbox.Sound digests

theorem Db.Agrees.empty : Db.empty.Agrees digests := ⟨.empty, .empty, .empty⟩

theorem Action.agrees (action : Action) (h : db.Agrees digests) : (action.run digests db).Agrees digests := by
  have sound := (Action.step h.sound action).1
  cases action with
  | money op =>
    exact ⟨(op.step digests h.good).good h.good, (op.sources digests h.good h.accepted).accepted h.accepted, sound⟩
  | worker op =>
    obtain ⟨books, projections, events⟩ := op.sources h.sound
    change (op.run digests db).Agrees digests
    refine ⟨by rw [books, projections]; exact h.good, ⟨?_, ?_, ?_⟩, sound⟩
    · rw [events, books]; exact h.accepted.events
    · rw [books]; exact h.accepted.owned
    · rw [books]; exact h.accepted.attached

theorem Action.runAll_agrees (actions : List Action) (h : db.Agrees digests) :
    (Action.runAll digests actions db).Agrees digests := by
  induction actions generalizing db with
  | nil => exact h
  | cons action rest ih => exact ih (action.agrees h)

end Workers

/-- The events of an account are numbered from one without gap or repetition, and its job aims at the last. -/
structure Outbox.Numbered (o : Outbox) (account : String) : Prop where
  once : ((o.events.select fun e => e.billingAccountId == account).map (·.sequence)).Nodup
  all : ∀ s, s ∈ (o.events.select fun e => e.billingAccountId == account).map (·.sequence) ↔ 1 ≤ s ∧ s ≤ o.last account
  scheduled : 0 < o.last account → ∃ job, o.job? account = some job
  target : ∀ job, o.job? account = some job → job.targetSequence = o.last account

theorem Outbox.Sound.numbering {digests : Digests} {o : Outbox} (s : o.Sound digests)
    (account : String) : o.Numbered account := by
  refine ⟨?_, fun q => ?_, s.scheduled account, fun job h => (s.jobs account job h).target⟩
  · refine List.Nodup.map_on (fun x hx y hy hq => ?_) (List.Nodup.filter _ (List.Nodup.of_map _ o.events.nodup))
    obtain ⟨hx, hxa⟩ := List.mem_filter.1 hx
    obtain ⟨hy, hya⟩ := List.mem_filter.1 hy
    refine Table.eq_of_key hx hy ?_
    show (x.billingAccountId, x.sequence) = (y.billingAccountId, y.sequence)
    rw [hq, beq_iff_eq.1 hxa, beq_iff_eq.1 hya]
  · rw [← s.numbered account q]
    simp only [List.mem_map, Table.select, List.mem_filter, beq_iff_eq, and_assoc]
    rfl

/-- In every run of money operations and worker calls the events of each account are numbered without gap, the
job of the account aims at the last, and every event passes validation in every later state. -/
theorem Action.runAll_validated (digests : Digests) (before after : List Action) :
    let db := Action.runAll digests before Db.empty
    let db' := Action.runAll digests after db
    (∀ account, db.outbox.Numbered account) ∧
      ∀ e ∈ db.outbox.events, e ∈ db'.outbox.events ∧ validateEvent e db' = .ok ((), db') := by
  intro db db'
  have h : db.Agrees digests := Action.runAll_agrees before .empty
  have h' : db'.Agrees digests := Action.runAll_agrees after h
  have kept : ∀ e ∈ db.outbox.events, e ∈ db'.outbox.events := (Action.runAll_step after h.sound).2.events
  exact ⟨h.sound.numbering, fun e he => ⟨kept e he, (h'.accepted.events e (kept e he)).valid⟩⟩

end Xscope

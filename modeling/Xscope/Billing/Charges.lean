/-
The charge of a usage event. Usage comes in two ways, recorded by itself or with the settlement of a
reservation; in every state each event is debited once, to the account of its project and for its cost, and the
ledger charges nothing else as usage.
-/
import Xscope.Billing.Exclusive
import Xscope.Payments.Replays

namespace Xscope

/-- The ledger transactions that charge an event. -/
def chargesEvent (eventId : String) (t : LedgerTransaction) : Bool :=
  t.referenceType == .usageEvent && t.referenceId == eventId

/-- One transaction debits the account of the project by the cost, against usage revenue. -/
structure DebitedOnce (b : Books) (u : UsageRow) (t : LedgerTransaction) (debit credit : LedgerEntry) : Prop where
  only : b.transactions.select (chargesEvent u.eventId) = [t]
  entries : b.entriesOf t.id = [credit, debit]
  account : ∃ a ∈ b.accounts, a.projectId = u.projectId ∧ debit.billingAccountId = a.id
  customer : debit.ledgerAccount = .customerBalance
  amount : debit.amountMicrounits = -u.costMicrounits
  revenue : credit.ledgerAccount = .usageRevenue

structure ChargedOnce (b : Books) (u : UsageRow) : Prop where
  free : ¬0 < u.costMicrounits → b.transactions.select (chargesEvent u.eventId) = []
  debited : 0 < u.costMicrounits → ∃ t debit credit, DebitedOnce b u t debit credit

/-- Every usage event is charged once, and every charge is of a usage event. -/
structure Books.Billed (b : Books) : Prop where
  events : ∀ u ∈ b.usageEvents, ChargedOnce b u
  ledger : ∀ t ∈ b.transactions, t.referenceType = .usageEvent → ∃ u ∈ b.usageEvents, u.eventId = t.referenceId

theorem Books.Billed.empty : Db.empty.books.Billed :=
  ⟨fun u h => absurd h (Table.not_mem_empty u), fun t h => absurd h (Table.not_mem_empty t)⟩

section Steps

variable {k : Kind} {b b' : Books}

/-- What a charge is about stays. -/
theorem ChargedOnce.frame {u : UsageRow} (h : ChargedOnce b u)
    (same : b'.transactions.select (chargesEvent u.eventId) = b.transactions.select (chargesEvent u.eventId))
    (entries : ∀ t ∈ b.transactions, b'.entriesOf t.id = b.entriesOf t.id)
    (stay : AccountsStay b b') : ChargedOnce b' u := by
  refine ⟨fun none => same.trans (h.free none), fun some => ?_⟩
  obtain ⟨t, debit, credit, d⟩ := h.debited some
  have ht : t ∈ b.transactions := by
    have only : t ∈ b.transactions.select (chargesEvent u.eventId) := by rw [d.only]; exact List.mem_singleton_self t
    exact (List.mem_filter.1 only).1
  obtain ⟨a, ha, project, own⟩ := d.account
  obtain ⟨flag, ha'⟩ := stay a ha
  exact ⟨t, debit, credit, same.trans d.only, (entries t ht).trans d.entries, ⟨_, ha', project, own⟩, d.customer,
    d.amount, d.revenue⟩

/-- A journal that is no usage posting charges no event. -/
theorem Posts.uncharging (p : Posts k b b') (quiet : k.charges = false) (eventId : String) :
    b'.transactions.select (chargesEvent eventId) = b.transactions.select (chargesEvent eventId) := by
  cases p with
  | none ht he => rw [ht]
  | journal txn e₁ e₂ es fresh ht h1 h2 owner₁ owner₂ cancel kind =>
    have other : txn.referenceType ≠ .usageEvent := kind.resolve_left (by simp [quiet])
    rw [Table.select_insert? ht, if_neg]
    simp [chargesEvent, other]

/-- A move that charges nothing. -/
theorem Books.Billed.frame (h : b.Billed) (p : Posts k b b') (quiet : k.charges = false)
    (same : b'.usageEvents = b.usageEvents) (stay : AccountsStay b b') : b'.Billed := by
  refine ⟨fun u hu => ?_, fun t ht usage => ?_⟩
  · rw [same] at hu
    exact (h.events u hu).frame (p.uncharging quiet u.eventId) (fun _ ht => p.entriesOf ht) stay
  · rw [same]
    cases p with
    | none htx he => rw [htx] at ht; exact h.ledger t ht usage
    | journal txn e₁ e₂ es fresh hi h1 h2 owner₁ owner₂ cancel kind =>
      rcases (Table.mem_insert? hi).1 ht with rfl | ht
      · exact absurd usage (kind.resolve_left (by simp [quiet]))
      · exact h.ledger t ht usage

/-- A new event with the posting that charges it, in whichever way it comes. -/
theorem Books.Billed.charge (h : b.Billed) (bal : b.Balanced) {call : Call} {a : BillingAccount} {amount : Int}
    {p : Posting} {u : UsageRow} {us : Table UsageRow} {rs : Table Reservation} (ha : a ∈ b.accounts)
    (project : a.projectId = u.projectId) (cost : u.costMicrounits = amount)
    (reference : p.referenceType = .usageEvent ∧ p.referenceId = u.eventId)
    (posting : p.customerDelta = -amount ∧ p.counterAccount = .usageRevenue) (hi : b.usageEvents.insert? u = some us)
    (post : Charged call a amount p { b with usageEvents := us, reservations := rs } b') : b'.Billed := by
  have stay : AccountsStay b b' := by
    obtain ⟨ts, es, rfl⟩ := post.eq
    exact .of_eq rfl
  have events : b'.usageEvents = us := by
    obtain ⟨ts, es, rfl⟩ := post.eq
    rfl
  -- nothing charges the event before it is there
  have unbilled : b.transactions.select (chargesEvent u.eventId) = [] := by
    refine Table.select_nil_iff.2 fun t ht => ?_
    by_contra charges
    simp only [chargesEvent, Bool.not_eq_false, Bool.and_eq_true, beq_iff_eq] at charges
    obtain ⟨x, hx, same⟩ := h.ledger t ht charges.1
    exact Table.get?_none_iff.1 (Table.insert?_some hi).1 x hx (same.trans charges.2)
  have entries : ∀ t ∈ b.transactions, b'.entriesOf t.id = b.entriesOf t.id := by
    intro t ht
    rcases post with ⟨-, post⟩ | ⟨-, rfl⟩
    · obtain ⟨ts, es, es', h1, h2, h3, rfl⟩ := post.inserted
      have old : ({ b with transactions := ts, entries := es' } : Books).entriesOf t.id = b.entriesOf t.id :=
        entriesOf_old ht h1 h2 h3 rfl rfl
      exact old
    · rfl
  have charged : ∀ eventId, b'.transactions.select (chargesEvent eventId) =
      if 0 < amount ∧ u.eventId = eventId then p.transaction call a :: b.transactions.select (chargesEvent eventId)
      else b.transactions.select (chargesEvent eventId) := by
    intro eventId
    rcases post with ⟨pos, post⟩ | ⟨neg, rfl⟩
    · obtain ⟨ts, es, es', h1, h2, h3, rfl⟩ := post.inserted
      show ts.select _ = _
      rw [Table.select_insert? h1]
      simp [chargesEvent, Posting.transaction, reference.1, reference.2, pos]
    · rw [if_neg fun both => neg both.1]
  refine ⟨fun x hx => ?_, fun t ht usage => ?_⟩
  · rw [events] at hx
    rcases (Table.mem_insert? hi).1 hx with rfl | hx
    · refine ⟨fun none => ?_, fun some => ?_⟩
      · rw [charged, if_neg (by rw [← cost]; exact fun both => none both.1)]
        exact unbilled
      · rw [cost] at some
        have only := charged x.eventId
        rw [if_pos ⟨some, rfl⟩, unbilled] at only
        obtain ⟨-, post⟩ | ⟨neg, -⟩ := post
        · obtain ⟨ts, es, es', h1, h2, h3, rfl⟩ := post.inserted
          refine ⟨_, p.customerEntry call a, p.counterEntry call a, only, ?_, ⟨a, ha, project, rfl⟩, rfl, ?_, ?_⟩
          · have new : ({ b with transactions := ts, entries := es' } : Books).entriesOf (p.transaction call a).id =
                [p.counterEntry call a, p.customerEntry call a] := entriesOf_new bal.owned h1 h2 h3 rfl rfl
            exact new
          · rw [cost]
            exact posting.1
          · exact posting.2
        · exact absurd some neg
    · refine (h.events x hx).frame ?_ entries stay
      rw [charged, if_neg]
      rintro ⟨-, same⟩
      exact Table.get?_none_iff.1 (Table.insert?_some hi).1 x hx same.symm
  · rw [events]
    rcases post.transactions ht with ht | rfl
    · obtain ⟨x, hx, own⟩ := h.ledger t ht usage
      exact ⟨x, (Table.mem_insert? hi).2 (.inr hx), own⟩
    · exact ⟨u, (Table.mem_insert? hi).2 (.inl rfl), reference.2.symm⟩

end Steps

theorem Move.billed {k : Kind} {b b' : Books} (m : Move k b b') (bal : b.Balanced) (h : b.Billed) : b'.Billed := by
  have posts := m.posts
  have stay := m.accountsStay
  cases m with
  | registry g => exact h.frame posts rfl g.usageEvents stay
  | settle call a r request amount us ha hp hr hs wf hin hout cost funds hi post =>
    exact h.charge bal ha hp rfl ⟨rfl, rfl⟩ ⟨rfl, rfl⟩ hi post
  | usage call a e cost us ha hp unreserved priced funds hi post =>
    exact h.charge bal ha hp rfl ⟨rfl, rfl⟩ ⟨rfl, rfl⟩ hi post
  | topUp call a o id provider reference currency key description ps ha hp ho hpend hfit hi post =>
    exact h.frame posts rfl (by obtain ⟨ts, es, rfl⟩ := post.eq; rfl) stay
  | refund call a o p row key description rs ha hp ho hpay hprov hrow hst hpos le limit funds hi post =>
    exact h.frame posts rfl (by obtain ⟨ts, es, rfl⟩ := post.eq; rfl) stay
  | prepare call a o p row key description rs ha hp ho hpay hprov hrow hst hpos limit funds hi post =>
    exact h.frame posts rfl (by obtain ⟨ts, es, rfl⟩ := post.eq; rfl) stay
  | complete call a o p row trade ha hp ho hpay hprov hrow hpid hst post =>
    exact h.frame posts rfl (by obtain ⟨ts, es, rfl⟩ := post.eq; rfl) stay
  | _ => exact h.frame posts rfl rfl stay

/-! ## Settlements -/

/-- Every settled reservation has the event of its settlement. -/
def Books.Reported (b : Books) : Prop := ∀ r ∈ b.reservations, r.state = .settled → ∃ u ∈ b.usageEvents, SettledBy r u

section Settlements

variable {k : Kind} {b b' : Books}

/-- The events stay, and every settled row was there. -/
theorem Books.Reported.frame (h : b.Reported) (events : ∀ u ∈ b.usageEvents, u ∈ b'.usageEvents)
    (origin : ∀ r ∈ b'.reservations, r.state = .settled → r ∈ b.reservations) : b'.Reported := by
  intro r hr settled
  obtain ⟨u, hu, own⟩ := h r (origin r hr settled) settled
  exact ⟨u, events u hu, own⟩

theorem put_unsettled (row : Reservation) (held : row.state ≠ .settled) :
    ∀ r ∈ b.reservations.put row, r.state = .settled → r ∈ b.reservations := by
  intro r hr settled
  rcases Table.mem_put.1 hr with ⟨hr, -⟩ | ⟨rfl, -⟩
  · exact hr
  · exact absurd settled held

theorem Move.reportedEvents (m : Move k b b') (h : b.Reported) : b'.Reported := by
  have events := m.rows.1
  cases m with
  | registry g => exact h.frame events fun r hr _ => by rw [← g.reservations]; exact hr
  | reserve now a request entry key amount rs ha hp wf hm hid hk hkid cost fresh unused funds budget hi =>
    refine h.frame events fun r hr settled => ?_
    rcases (Table.mem_insert? hi).1 hr with rfl | hr
    · cases settled
    · exact hr
  | dispatch now r hr hs => exact h.frame events (put_unsettled (dispatchedReservation now r) nofun)
  | release now r reason hr hs => exact h.frame events (put_unsettled (releasedReservation now r reason) nofun)
  | report now r request hr hs =>
    refine h.frame events (put_unsettled (unresolvedReservation now r request) ?_)
    show r.state ≠ .settled
    rw [hs]
    nofun
  | waive now r hr hs => exact h.frame events (put_unsettled (waivedReservation now r) nofun)
  | settle call a r request amount us ha hp hr hs wf hin hout cost funds hi post =>
    obtain ⟨ts, es, rfl⟩ := post.eq
    intro x hx settled
    rcases Table.mem_put.1 hx with ⟨hx, -⟩ | ⟨rfl, -⟩
    · obtain ⟨u, hu, own⟩ := h x hx settled
      exact ⟨u, events u hu, own⟩
    · exact ⟨_, (Table.mem_insert? hi).2 (.inl rfl), rfl, call.now, a, request, amount, rfl, rfl, rfl⟩
  | usage call a e cost us ha hp unreserved priced funds hi post =>
    exact h.frame events (by obtain ⟨ts, es, rfl⟩ := post.eq; exact fun _ hr _ => hr)
  | topUp call a o id provider reference currency key description ps ha hp ho hpend hfit hi post =>
    exact h.frame events (by obtain ⟨ts, es, rfl⟩ := post.eq; exact fun _ hr _ => hr)
  | refund call a o p row key description rs ha hp ho hpay hprov hrow hst hpos le limit funds hi post =>
    exact h.frame events (by obtain ⟨ts, es, rfl⟩ := post.eq; exact fun _ hr _ => hr)
  | prepare call a o p row key description rs ha hp ho hpay hprov hrow hst hpos limit funds hi post =>
    exact h.frame events (by obtain ⟨ts, es, rfl⟩ := post.eq; exact fun _ hr _ => hr)
  | complete call a o p row trade ha hp ho hpay hprov hrow hpid hst post =>
    exact h.frame events (by obtain ⟨ts, es, rfl⟩ := post.eq; exact fun _ hr _ => hr)
  | _ => exact h.frame events fun _ hr _ => hr

end Settlements

/-- What the books say of usage. -/
structure Books.Charges (b : Books) : Prop where
  balanced : b.Balanced
  billed : b.Billed
  reported : b.Reported

theorem Books.Charges.empty : Db.empty.books.Charges := ⟨.empty, .empty, fun r h => absurd h (Table.not_mem_empty r)⟩

theorem Moves.charges {ks : List Kind} {b b' : Books} (h : Moves ks b b') (c : b.Charges) : b'.Charges :=
  h.keeps (fun _ _ _ _ m c => ⟨m.posts.balanced c.balanced, m.billed c.balanced c.billed,
    m.reportedEvents c.reported⟩) c

/-- Over any run of operations, with any replays: the ledger charges every usage event once and nothing else as
usage, and every settled reservation has its event. -/
theorem Op.runAll_charges (digests : Digests) (ops : List Op) :
    let b := (Op.runAll digests ops Db.empty).books
    (∀ u ∈ b.usageEvents, ChargedOnce b u) ∧
    (∀ t ∈ b.transactions, t.referenceType = .usageEvent → ∃ u ∈ b.usageEvents, u.eventId = t.referenceId) ∧
    ∀ r ∈ b.reservations, r.state = .settled → ∃ u ∈ b.usageEvents, SettledBy r u := by
  intro b
  have charges : b.Charges := (Op.runAll_moves digests ops Good.empty).moves.charges .empty
  exact ⟨charges.billed.events, charges.billed.ledger, charges.reported⟩

end Xscope

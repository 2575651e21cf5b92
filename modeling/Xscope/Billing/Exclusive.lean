/-
The two ways to charge for usage exclude each other. A request has at most one reservation; the
only usage event it can have beside it is the one the settlement wrote, and a ledger transaction
that charges usage charges either a recorded event of an unreserved request or a settlement.
-/
import Xscope.Billing.Lifecycle

namespace Xscope

/-! ## The invariant -/

/-- `u` is of the request of `r`. -/
def SameRequest (r : Reservation) (u : UsageRow) : Prop := u.projectId = r.projectId ∧ u.requestId = r.requestId

/-- `u` is the usage event that the settlement of `r` wrote. -/
def SettledBy (r : Reservation) (u : UsageRow) : Prop := r.state = .settled ∧ ∃ now account request amount,
  r.completion = some (.settled request) ∧ r.settledMicrounits = some amount ∧
    u = settledUsage now account r request amount

/-- The transaction charges the event as recorded usage. -/
def Recorded (b : Books) (t : LedgerTransaction) (u : UsageRow) : Prop :=
  t.idempotencyKey = "usage:" ++ u.eventId ∧ ∀ r ∈ b.reservations, ¬SameRequest r u

/-- The transaction charges the event as the settlement of a reservation. -/
def Reserved (b : Books) (t : LedgerTransaction) (u : UsageRow) : Prop :=
  ∃ r ∈ b.reservations, SettledBy r u ∧ t.idempotencyKey = "reservation:" ++ r.id

structure Books.Exclusive (b : Books) : Prop where
  once : ∀ r ∈ b.reservations, ∀ r' ∈ b.reservations, r.projectId = r'.projectId → r.requestId = r'.requestId → r = r'
  usage : ∀ r ∈ b.reservations, ∀ u ∈ b.usageEvents, SameRequest r u → SettledBy r u
  charges : ∀ t ∈ b.transactions, t.referenceType = .usageEvent → ∃ u ∈ b.usageEvents, u.eventId = t.referenceId ∧
    (Recorded b t u ∨ Reserved b t u)

theorem SettledBy.same {r : Reservation} {u : UsageRow} (h : SettledBy r u) : SameRequest r u := by
  obtain ⟨-, now, account, request, amount, -, -, rfl⟩ := h
  exact ⟨rfl, rfl⟩

theorem Books.Exclusive.empty : Db.empty.books.Exclusive :=
  ⟨fun r h => absurd h (Table.not_mem_empty r), fun r h => absurd h (Table.not_mem_empty r),
    fun t h => absurd h (Table.not_mem_empty t)⟩

section Steps

variable {k : Kind} {b b' : Books} {old row : Reservation}

/-- A charge stays what it is while reservations are kept or no settled one is among those replaced. -/
theorem Reserved.mono {t : LedgerTransaction} {u : UsageRow} (h : Reserved b t u)
    (kept : ∀ r ∈ b.reservations, r.state = .settled → r ∈ b'.reservations) : Reserved b' t u := by
  obtain ⟨r, hr, settled, key⟩ := h
  exact ⟨r, kept r hr settled.1, settled, key⟩

/-- A move that neither reserves, settles nor records usage, and leaves the reservations. -/
theorem Books.Exclusive.frame (h : b.Exclusive) (p : Posts k b b') (hc : k.charges = false)
    (hr : b'.reservations = b.reservations) (hu : b'.usageEvents = b.usageEvents) : b'.Exclusive := by
  refine ⟨by rw [hr]; exact h.once, by rw [hr, hu]; exact h.usage, fun t ht hk => ?_⟩
  have old : t ∈ b.transactions := by
    cases p with
    | none htx he => rw [← htx]; exact ht
    | journal txn e₁ e₂ es fresh hi h1 h2 owner₁ owner₂ cancel kind =>
      rcases (Table.mem_insert? hi).1 ht with rfl | ht
      · exact absurd hk (kind.resolve_left (by simp [hc]))
      · exact ht
  obtain ⟨u, hm, id, through⟩ := h.charges t old hk
  refine ⟨u, by rw [hu]; exact hm, id, ?_⟩
  unfold Recorded Reserved at through ⊢
  rw [hr]
  exact through

/-- A held reservation has no usage event. -/
theorem Books.Exclusive.unused (h : b.Exclusive) (ho : old ∈ b.reservations) (held : old.state ≠ .settled) :
    ∀ u ∈ b.usageEvents, ¬SameRequest old u :=
  fun u hu same => held (h.usage old ho u hu same).1

/-- The rows after a replacement are those of before, up to the one replaced. -/
theorem once_put (h : b.Exclusive) (ho : old ∈ b.reservations) (terms : SameTerms old row) :
    ∀ r ∈ b.reservations.put row, ∀ r' ∈ b.reservations.put row, r.projectId = r'.projectId →
      r.requestId = r'.requestId → r = r' := by
  have back : ∀ x ∈ b.reservations.put row, ∃ y ∈ b.reservations, y.id = x.id ∧ y.projectId = x.projectId ∧
      y.requestId = x.requestId := by
    intro x hx
    rcases Table.mem_put.1 hx with ⟨hx, -⟩ | ⟨rfl, -⟩
    · exact ⟨x, hx, rfl, rfl, rfl⟩
    · exact ⟨old, ho, terms.id.symm, terms.projectId.symm, terms.requestId.symm⟩
  intro r hr r' hr' project request
  obtain ⟨y, hy, id, p, q⟩ := back r hr
  obtain ⟨y', hy', id', p', q'⟩ := back r' hr'
  have same : y = y' := h.once y hy y' hy' (p.trans (project.trans p'.symm)) (q.trans (request.trans q'.symm))
  refine Table.eq_of_key hr hr' ?_
  show r.id = r'.id
  rw [← id, ← id', same]

theorem kept_put (ho : old ∈ b.reservations) (terms : SameTerms old row) (held : old.state ≠ .settled) :
    ∀ r ∈ b.reservations, r.state = .settled → r ∈ b.reservations.put row := by
  intro r hr settled
  refine Table.mem_put.2 (.inl ⟨hr, fun he => held ?_⟩)
  have : r = old := Table.eq_of_key hr ho (he.trans terms.id)
  rw [← this]
  exact settled

/-- A reservation moves without a settlement. -/
theorem Books.Exclusive.put (h : b.Exclusive) (ho : old ∈ b.reservations) (terms : SameTerms old row)
    (held : old.state ≠ .settled) :
    ({ b with reservations := b.reservations.put row } : Books).Exclusive := by
  have unreserved : ∀ u ∈ b.usageEvents, ¬SameRequest row u := fun u hu same =>
    h.unused ho held u hu ⟨same.1.trans terms.projectId, same.2.trans terms.requestId⟩
  refine ⟨once_put h ho terms, fun r hr u hu same => ?_, fun t ht hk => ?_⟩
  · rcases Table.mem_put.1 hr with ⟨hr, -⟩ | ⟨rfl, -⟩
    · exact h.usage r hr u hu same
    · exact absurd same (unreserved u hu)
  · obtain ⟨u, hu, id, through⟩ := h.charges t ht hk
    refine ⟨u, hu, id, through.imp (fun ⟨key, free⟩ => ⟨key, fun r hr => ?_⟩) fun reserved => reserved.mono
      (kept_put ho terms held)⟩
    rcases Table.mem_put.1 hr with ⟨hr, -⟩ | ⟨rfl, -⟩
    · exact free r hr
    · exact unreserved u hu

/-- A reservation is created for a request without a reservation and without usage. -/
theorem Books.Exclusive.insert (h : b.Exclusive) {rs : Table Reservation} (hi : b.reservations.insert? row = some rs)
    (fresh : ∀ r ∈ b.reservations, ¬(r.projectId = row.projectId ∧ r.requestId = row.requestId))
    (unused : ∀ u ∈ b.usageEvents, ¬SameRequest row u) : ({ b with reservations := rs } : Books).Exclusive := by
  refine ⟨fun r hr r' hr' project request => ?_, fun r hr u hu same => ?_, fun t ht hk => ?_⟩
  · rcases (Table.mem_insert? hi).1 hr with rfl | hr <;> rcases (Table.mem_insert? hi).1 hr' with rfl | hr'
    · rfl
    · exact absurd ⟨project.symm, request.symm⟩ (fresh r' hr')
    · exact absurd ⟨project, request⟩ (fresh r hr)
    · exact h.once r hr r' hr' project request
  · rcases (Table.mem_insert? hi).1 hr with rfl | hr
    · exact absurd same (unused u hu)
    · exact h.usage r hr u hu same
  · obtain ⟨u, hu, id, through⟩ := h.charges t ht hk
    refine ⟨u, hu, id, through.imp (fun ⟨key, free⟩ => ⟨key, fun r hr => ?_⟩) fun reserved => reserved.mono
      fun r hr _ => ?_⟩
    · rcases (Table.mem_insert? hi).1 hr with rfl | hr
      · exact unused u hu
      · exact free r hr
    · exact (Table.mem_insert? hi).2 (.inr hr)

/-- The usage event of a charge is inserted before its journal. -/
theorem Charged.transactions {call : Call} {a : BillingAccount} {amount : Int} {p : Posting}
    (post : Charged call a amount p b b') {t : LedgerTransaction} (ht : t ∈ b'.transactions) :
    t ∈ b.transactions ∨ t = p.transaction call a := by
  rcases post with ⟨-, post⟩ | ⟨-, rfl⟩
  · obtain ⟨ts, es, es', hi, -, -, rfl⟩ := post.inserted
    exact ((Table.mem_insert? hi).1 ht).symm
  · exact .inl ht

/-- Usage is recorded for a request without a reservation. -/
theorem Books.Exclusive.record (h : b.Exclusive) {call : Call} {a : BillingAccount} {e : UsageEvent} {cost : Int}
    {us : Table UsageRow} (unreserved : ∀ r ∈ b.reservations, ¬(r.projectId = e.projectId ∧ r.requestId = e.requestId))
    (hi : b.usageEvents.insert? (recordedUsage call.now e cost) = some us)
    (post : Charged call a cost (recordedPosting e cost) { b with usageEvents := us } b') : b'.Exclusive := by
  have free : ∀ r ∈ b.reservations, ¬SameRequest r (recordedUsage call.now e cost) :=
    fun r hr same => unreserved r hr ⟨same.1.symm, same.2.symm⟩
  have transactions : ∀ t ∈ b'.transactions, t ∈ b.transactions ∨ t = (recordedPosting e cost).transaction call a :=
    fun t ht => post.transactions ht
  obtain ⟨ts, es, rfl⟩ := post.eq
  refine ⟨h.once, fun r hr u hu same => ?_, fun t ht hk => ?_⟩
  · rcases (Table.mem_insert? hi).1 hu with rfl | hu
    · exact absurd same (free r hr)
    · exact h.usage r hr u hu same
  · rcases transactions t ht with ht | rfl
    · obtain ⟨u, hu, rest⟩ := h.charges t ht hk
      exact ⟨u, (Table.mem_insert? hi).2 (.inr hu), rest⟩
    · exact ⟨_, (Table.mem_insert? hi).2 (.inl rfl), rfl, .inl ⟨rfl, free⟩⟩

/-- A dispatched reservation is settled. -/
theorem Books.Exclusive.settle (h : b.Exclusive) {call : Call} {a : BillingAccount} {request : SettleRequest}
    {amount : Int} {us : Table UsageRow} (hr : old ∈ b.reservations) (dispatched : old.state = .dispatched)
    (hi : b.usageEvents.insert? (settledUsage call.now a old request amount) = some us)
    (post : Charged call a amount (settledPosting old amount)
      { b with
        usageEvents := us
        reservations := b.reservations.put (settledReservation call.now old request amount) } b') :
    b'.Exclusive := by
  have held : old.state ≠ .settled := by rw [dispatched]; nofun
  have terms : SameTerms old (settledReservation call.now old request amount) := settled_terms ..
  have moved := h.put hr terms held
  have own : SettledBy (settledReservation call.now old request amount) (settledUsage call.now a old request amount) :=
    ⟨rfl, call.now, a, request, amount, rfl, rfl, rfl⟩
  have mem : settledReservation call.now old request amount ∈ b.reservations.put
      (settledReservation call.now old request amount) :=
    Table.mem_put.2 (.inr ⟨rfl, old, hr, rfl⟩)
  have transactions : ∀ t ∈ b'.transactions, t ∈ b.transactions ∨ t = (settledPosting old amount).transaction call a :=
    fun t ht => post.transactions ht
  obtain ⟨ts, es, rfl⟩ := post.eq
  refine ⟨moved.once, fun r hm u hu same => ?_, fun t ht hk => ?_⟩
  · rcases (Table.mem_insert? hi).1 hu with rfl | hu
    · rw [moved.once r hm _ mem same.1.symm same.2.symm]
      exact own
    · exact moved.usage r hm u hu same
  · rcases transactions t ht with ht | rfl
    · obtain ⟨u, hu, rest⟩ := moved.charges t ht hk
      exact ⟨u, (Table.mem_insert? hi).2 (.inr hu), rest⟩
    · exact ⟨_, (Table.mem_insert? hi).2 (.inl rfl), rfl, .inr ⟨_, mem, own, rfl⟩⟩

end Steps

theorem Move.exclusive {k : Kind} {b b' : Books} (m : Move k b b') (h : b.Exclusive) : b'.Exclusive := by
  have posts := m.posts
  cases m with
  | registry g => exact h.frame posts rfl g.reservations g.usageEvents
  | reserve now a request entry key amount rs ha hp wf hm hid hk hkid cost fresh unused funds budget hi =>
    exact h.insert hi fresh fun u hu same => unused u hu same
  | dispatch now r hr hs => exact h.put hr (dispatched_terms now r) (by rw [hs]; nofun)
  | release now r reason hr hs => exact h.put hr (released_terms now r reason) (by rw [hs]; nofun)
  | report now r request hr hs => exact h.put hr (unresolved_terms now r request) (by rw [hs]; nofun)
  | settle call a r request amount us ha hp hr hs wf hin hout cost funds hi post => exact h.settle hr hs hi post
  | waive now r hr hs => exact h.put hr (waived_terms now r) (by rintro he; rw [he] at hs; cases hs)
  | usage call a e cost us ha hp unreserved priced funds hi post => exact h.record unreserved hi post
  | topUp call a o id provider reference currency key description ps ha hp ho hpend hfit hi post =>
    obtain ⟨ts, es, rfl⟩ := post.eq; exact h.frame posts rfl rfl rfl
  | refund call a o p row key description rs ha hp ho hpay hprov hrow hst hpos le limit funds hi post =>
    obtain ⟨ts, es, rfl⟩ := post.eq; exact h.frame posts rfl rfl rfl
  | prepare call a o p row key description rs ha hp ho hpay hprov hrow hst hpos limit funds hi post =>
    obtain ⟨ts, es, rfl⟩ := post.eq; exact h.frame posts rfl rfl rfl
  | complete call a o p row trade ha hp ho hpay hprov hrow hpid hst post =>
    obtain ⟨ts, es, rfl⟩ := post.eq; exact h.frame posts rfl rfl rfl
  | review reviews audits => exact h.frame posts rfl rfl rfl
  | policy a ha flag => exact h.frame posts rfl rfl rfl

/-! ## Runs -/

/-- In every run a reserved request has no usage event but that of its own settlement, and no request
is charged both as recorded usage and as a settlement. -/
theorem Op.runAll_exclusive (digests : Digests) (ops : List Op) :
    let b := (Op.runAll digests ops Db.empty).books
    (∀ r ∈ b.reservations, ∀ u ∈ b.usageEvents, SameRequest r u → SettledBy r u) ∧
    (∀ t ∈ b.transactions, t.referenceType = .usageEvent → ∃ u ∈ b.usageEvents, u.eventId = t.referenceId ∧
      (Recorded b t u ∨ Reserved b t u)) ∧
    ∀ t ∈ b.transactions, ∀ t' ∈ b.transactions, ∀ u u', Recorded b t u → Reserved b t' u' →
      ¬(u.projectId = u'.projectId ∧ u.requestId = u'.requestId) := by
  intro b
  have exclusive : b.Exclusive := (Op.runAll_moves digests ops Good.empty).moves.keeps
    (fun _ _ _ _ m h => m.exclusive h) .empty
  refine ⟨exclusive.usage, exclusive.charges, fun t _ t' _ u u' recorded reserved same => ?_⟩
  obtain ⟨r, hr, settled, -⟩ := reserved
  obtain ⟨project, request⟩ := settled.same
  exact recorded.2 r hr ⟨same.1.trans project, same.2.trans request⟩

end Xscope

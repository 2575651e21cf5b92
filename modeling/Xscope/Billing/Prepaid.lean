/-
Prepaid safety. What an enforced account has neither spent nor reserved never becomes negative:
every debit and every hold is checked against it, a settlement frees at least what it charges,
and whatever frees a hold frees a nonnegative amount.
-/
import Xscope.Billing.Runs

namespace Xscope

/-! ## Amounts are never negative -/

/-- The stored models are priced, orders have positive amounts, and a reservation holds the cost
of its token limits at its frozen price. -/
structure Books.Sound (b : Books) : Prop where
  catalog : ∀ row ∈ b.catalog, row.definition.Priced
  prices : ∀ row ∈ b.prices, row.definition.Priced
  orders : ∀ o ∈ b.orders, 0 < o.amount
  reservations : ∀ r ∈ b.reservations, r.price.Priced ∧
    usageCostMicrounits r.price r.spec.inputTokenLimit r.spec.outputTokenLimit = .ok r.reservedMicrounits

theorem Books.Sound.held_nonneg {b : Books} (h : b.Sound) {r : Reservation} (hr : r ∈ b.reservations) :
    0 ≤ r.reservedMicrounits :=
  cost_nonneg (h.reservations r hr).1 (h.reservations r hr).2

/-- A settlement within the token limits costs no more than the reservation. -/
theorem Books.Sound.settled_le {b : Books} (h : b.Sound) {r : Reservation} (hr : r ∈ b.reservations)
    {request : SettleRequest} {amount : Int} (hin : request.inputTokens ≤ r.spec.inputTokenLimit)
    (hout : request.outputTokens ≤ r.spec.outputTokenLimit)
    (cost : usageCostMicrounits r.price request.inputTokens request.outputTokens = .ok amount) :
    amount ≤ r.reservedMicrounits := by
  obtain ⟨priced, reserved⟩ := h.reservations r hr
  obtain ⟨hi, ho, -⟩ := cost_ok.1 cost
  obtain ⟨c, hc, le⟩ := cost_mono priced reserved hi ho hin hout
  rw [cost] at hc
  cases hc
  exact le

theorem Books.Sound.put {b : Books} {old row : Reservation} (h : b.Sound) (ho : old ∈ b.reservations)
    (terms : SameTerms old row) :
    ({ b with reservations := b.reservations.put row } : Books).Sound := by
  refine ⟨h.catalog, h.prices, h.orders, fun r hr => ?_⟩
  rcases Table.mem_put.1 hr with ⟨hr, -⟩ | ⟨rfl, -⟩
  · exact h.reservations r hr
  · rw [terms.price, terms.spec, terms.reservedMicrounits]; exact h.reservations old ho

theorem Books.Sound.congr {b b' : Books} (h : b.Sound) (hc : b'.catalog = b.catalog) (hp : b'.prices = b.prices)
    (ho : ∀ o ∈ b'.orders, 0 < o.amount) (hr : b'.reservations = b.reservations) : b'.Sound :=
  ⟨by rw [hc]; exact h.catalog, by rw [hp]; exact h.prices, ho, by rw [hr]; exact h.reservations⟩

theorem Move.sound {k : Kind} {b b' : Books} (m : Move k b b') (h : b.Sound) : b'.Sound := by
  cases m with
  | registry g =>
    refine ⟨fun row hr => ?_, fun row hr => ?_, fun o ho => ?_, by rw [g.reservations]; exact h.reservations⟩
    · exact (g.catalog row hr).elim (h.catalog row) id
    · exact (g.prices row hr).elim (h.prices row) id
    · exact (g.newOrders o ho).elim (h.orders o) And.left
  | review reviews audits => exact h.congr rfl rfl h.orders rfl
  | policy a ha flag => exact h.congr rfl rfl h.orders rfl
  | reserve now a request entry key amount rs ha hp wf hm hid hk hkid cost fresh unused funds budget hi =>
    refine ⟨h.catalog, h.prices, h.orders, fun r hr => ?_⟩
    rcases (Table.mem_insert? hi).1 hr with rfl | hr
    · exact ⟨h.catalog entry hm, cost⟩
    · exact h.reservations r hr
  | dispatch now r hr hs => exact h.put hr (dispatched_terms now r)
  | release now r reason hr hs => exact h.put hr (released_terms now r reason)
  | report now r request hr hs => exact h.put hr (unresolved_terms now r request)
  | settle call a r request amount us ha hp hr hs wf hin hout cost funds hi post =>
    obtain ⟨ts, es, rfl⟩ := post.eq
    exact (h.put hr (settled_terms call.now r request amount)).congr rfl rfl h.orders rfl
  | waive now r hr hs => exact h.put hr (waived_terms now r)
  | usage call a e cost us ha hp unreserved priced funds hi post =>
    obtain ⟨ts, es, rfl⟩ := post.eq; exact h.congr rfl rfl h.orders rfl
  | topUp call a o id provider reference currency key description ps ha hp ho hpend hfit hi post =>
    obtain ⟨ts, es, rfl⟩ := post.eq
    refine h.congr rfl rfl (fun x hx => ?_) rfl
    rcases Table.mem_put.1 hx with ⟨hx, -⟩ | ⟨rfl, -⟩
    · exact h.orders x hx
    · exact h.orders o ho
  | refund call a o p row key description rs ha hp ho hpay hprov hrow hst hpos le limit funds hi post =>
    obtain ⟨ts, es, rfl⟩ := post.eq; exact h.congr rfl rfl h.orders rfl
  | prepare call a o p row key description rs ha hp ho hpay hprov hrow hst hpos limit funds hi post =>
    obtain ⟨ts, es, rfl⟩ := post.eq; exact h.congr rfl rfl h.orders rfl
  | complete call a o p row trade ha hp ho hpay hprov hrow hpid hst post =>
    obtain ⟨ts, es, rfl⟩ := post.eq; exact h.congr rfl rfl h.orders rfl

theorem Moves.sound {ks : List Kind} {b b' : Books} (h : Moves ks b b') (hb : b.Sound) : b'.Sound :=
  h.keeps (fun _ _ _ _ m => m.sound) hb

theorem Books.Sound.empty : Db.empty.books.Sound :=
  ⟨fun row h => absurd h (Table.not_mem_empty row), fun row h => absurd h (Table.not_mem_empty row),
    fun o h => absurd h (Table.not_mem_empty o), fun r h => absurd h (Table.not_mem_empty r)⟩

theorem Op.runAll_sound (digests : Digests) (ops : List Op) : (Op.runAll digests ops Db.empty).books.Sound :=
  (Op.runAll_moves digests ops Good.empty).moves.sound Books.Sound.empty

/-! ## What an account has available -/

/-- What is neither spent nor reserved. -/
def Totals.available (t : Totals) (account : String) : Int := t.balance account - t.held account

@[simp] theorem available_addHold (t : Totals) (a k : String) (delta : Int) (id : String) :
    (t.addHold a k delta).available id = t.available id - if id = a then delta else 0 := by
  simp only [Totals.available, Totals.addHold]; ring

@[simp] theorem available_addBalance (t : Totals) (a : String) (delta : Int) (id : String) :
    (t.addBalance a delta).available id = t.available id + if id = a then delta else 0 := by
  simp only [Totals.available, Totals.addBalance]; ring

@[simp] theorem available_addSpent (t : Totals) (k : String) (month delta : Int) (id : String) :
    (t.addSpent k month delta).available id = t.available id := rfl

def Books.available (b : Books) (account : String) : Int := b.totals.available account

/-- The balance of an account is enforced. -/
def Books.Enforced (b : Books) (account : String) : Prop := ∃ a ∈ b.accounts, a.id = account ∧ a.enforceBalance = true

/-- A checked debit or hold concerns another account, or what it leaves available is not negative. -/
theorem Books.Enforced.funded {b : Books} {a : BillingAccount} {id : String} {v : Int} (h : b.Enforced id)
    (ha : a ∈ b.accounts) (hid : id = a.id) (funds : Funded a v) : 0 ≤ v := by
  obtain ⟨x, hx, rfl, he⟩ := h
  rw [Table.eq_of_key hx ha hid] at he
  exact funds he

/-- A reservation that holds less than before makes no less available. -/
theorem available_putReservation {b : Books} {old row : Reservation} (ho : old ∈ b.reservations)
    (terms : SameTerms old row) (hh : row.state.holds old.reservedMicrounits ≤ old.state.holds old.reservedMicrounits)
    (id : String) :
    b.available id ≤ ({ b with reservations := b.reservations.put row } : Books).available id := by
  unfold Books.available
  rw [totals_putReservation ho terms, available_addHold]
  split <;> omega

/-- A posting makes its amount available. -/
theorem available_post {call : Call} {a : BillingAccount} {post : Posting} {b b' : Books} (h : Posted call a post b b')
    (hc : post.counterAccount ≠ .customerBalance) (id : String) :
    b'.available id = b.available id + if id = a.id then post.customerDelta else 0 := by
  unfold Books.available
  rw [h.totals hc, available_addBalance]

/-- One move other than a change of policy keeps an enforced account safe. -/
theorem Move.prepaid {k : Kind} {b b' : Books} (m : Move k b b') (hk : k ≠ .policy) (s : b.Sound) (o : b.Owned)
    {id : String} (en : b.Enforced id) (h : 0 ≤ b.available id) : 0 ≤ b'.available id := by
  cases m with
  | registry g => unfold Books.available; rw [g.totals]; exact h
  | review reviews audits => exact h
  | policy a ha flag => exact absurd rfl hk
  | reserve now a request entry key amount rs ha hp wf hm hid hk hkid cost fresh unused funds budget hi =>
    have ht : ({ b with reservations := rs } : Books).totals = b.totals.addHold a.id request.apiKeyId amount :=
      totals_insertReservation hi rfl
    unfold Books.available at h ⊢
    rw [ht, available_addHold]
    split
    · rename_i e
      subst e
      exact en.funded ha rfl funds
    · omega
  | dispatch now r hr hs =>
    refine h.trans (available_putReservation hr (dispatched_terms now r) ?_ id)
    rw [hs]; exact le_rfl
  | release now r reason hr hs =>
    refine h.trans (available_putReservation hr (released_terms now r reason) ?_ id)
    rw [hs]; exact s.held_nonneg hr
  | report now r request hr hs => exact h.trans (available_putReservation hr (unresolved_terms now r request) le_rfl id)
  | settle call a r request amount us ha hp hr hs wf hin hout cost funds hi post =>
    -- the hold that is given up covers the charge
    have le : amount ≤ r.reservedMicrounits := s.settled_le hr hin hout cost
    have hacc : a.id = r.billingAccountId := o.account_eq ha hr hp
    unfold Books.available at h ⊢
    rw [post.totals (by simp [settledPosting]), totals_settle hr hs hi, available_addBalance, available_addSpent,
      available_addHold, hacc]
    have := s.held_nonneg hr
    simp only [settledPosting]
    by_cases hid : id = r.billingAccountId
    · rw [if_pos hid, if_pos hid]
      split <;> omega
    · rw [if_neg hid, if_neg hid]; omega
  | waive now r hr hs =>
    refine h.trans (available_putReservation hr (waived_terms now r) ?_ id)
    rw [ReservationState.holds_of_held hs]; exact s.held_nonneg hr
  | usage call a e cost us ha hp unreserved priced funds hi post =>
    have ht : ({ b with usageEvents := us } : Books).totals = _ := totals_insertUsage hi
    unfold Books.available at h ⊢
    rw [post.totals (by simp [recordedPosting]), ht, available_addBalance, available_addSpent]
    split
    · rename_i e
      subst e
      split
      · exact en.funded ha rfl (funds ‹_›)
      · omega
    · omega
  | topUp call a o id provider reference currency key description ps ha hp ho hpend hfit hi post =>
    rw [available_post post (by simp [topUpPosting])]
    have : 0 < o.amount * microsPerMinorUnit := minor_pos (s.orders o ho)
    show 0 ≤ b.available _ + _
    simp only [topUpPosting]
    split <;> omega
  | refund call a o p row key description rs ha hp ho hpay hprov hrow hst hpos le limit funds hi post =>
    rw [available_post post (by simp [refundPosting])]
    show 0 ≤ b.available _ + _
    split
    · rename_i e
      subst e
      exact en.funded ha rfl funds
    · omega
  | prepare call a o p row key description rs ha hp ho hpay hprov hrow hst hpos limit funds hi post =>
    rw [available_post post (by simp [refundPosting])]
    show 0 ≤ b.available _ + _
    split
    · rename_i e
      subst e
      exact funds
    · omega
  | complete call a o p row trade ha hp ho hpay hprov hrow hpid hst post =>
    unfold Books.available
    rw [post.totals (by simp [clearingEntry]) (by simp [clearingEntry])]
    exact h

theorem Move.enforced {k : Kind} {b b' : Books} (m : Move k b b') (hk : k ≠ .policy) {id : String}
    (en : b.Enforced id) :
    b'.Enforced id := by
  obtain ⟨x, hx, hid, he⟩ := en
  refine ⟨x, ?_, hid, he⟩
  cases m with
  | registry g => exact g.accounts x hx
  | policy a ha flag => exact absurd rfl hk
  | settle call a r request amount us ha hp hr hs wf hin hout cost funds hi post =>
    obtain ⟨ts, es, rfl⟩ := post.eq; exact hx
  | usage call a e cost us ha hp unreserved priced funds hi post => obtain ⟨ts, es, rfl⟩ := post.eq; exact hx
  | topUp call a o id provider reference currency key description ps ha hp ho hpend hfit hi post =>
    obtain ⟨ts, es, rfl⟩ := post.eq; exact hx
  | refund call a o p row key description rs ha hp ho hpay hprov hrow hst hpos le limit funds hi post =>
    obtain ⟨ts, es, rfl⟩ := post.eq; exact hx
  | prepare call a o p row key description rs ha hp ho hpay hprov hrow hst hpos limit funds hi post =>
    obtain ⟨ts, es, rfl⟩ := post.eq; exact hx
  | complete call a o p row trade ha hp ho hpay hprov hrow hpid hst post =>
    obtain ⟨ts, es, rfl⟩ := post.eq; exact hx
  | _ => exact hx

/-! ## Runs -/

/-- A sequence of moves without a change of policy keeps an enforced account safe. -/
theorem Moves.prepaid {ks : List Kind} {b b' : Books} (h : Moves ks b b') (hk : .policy ∉ ks)
    (s : b.Sound) (o : b.Owned) {id : String} (en : b.Enforced id) (h0 : 0 ≤ b.available id) : 0 ≤ b'.available id := by
  refine (h.keeps (I := fun b => (b.Sound ∧ b.Owned) ∧ b.Enforced id ∧ 0 ≤ b.available id) ?_ ⟨⟨s, o⟩, en, h0⟩).2.2
  rintro k hm b b' m ⟨⟨s, o⟩, en, h0⟩
  have hne : k ≠ .policy := fun e => hk (e ▸ hm)
  exact ⟨⟨m.sound s, m.owned o⟩, m.enforced hne en, m.prepaid hne s o en h0⟩

/-- A change of policy moves no money. -/
theorem Moves.available_policy {b b' : Books} (h : Moves [.registry, .policy] b b') (id : String) :
    b'.available id = b.available id := by
  refine h.keeps (I := fun x => x.available id = b.available id) (fun k hk x x' m hx => ?_) rfl
  unfold Books.available at hx ⊢
  cases m with
  | registry g => rw [g.totals]; exact hx
  | policy a ha flag => exact hx
  | _ => simp at hk

theorem Op.prepaid (digests : Digests) (op : Op) {db : Db} (g : Good db.books db.projections)
    (s : db.books.Sound) {id : String} (en : db.books.Enforced id) (h : 0 ≤ db.books.available id) :
    0 ≤ (op.run digests db).books.available id := by
  have step := (op.step digests g).moves
  by_cases hk : .policy ∈ op.kinds
  · cases op with
    | updateBalancePolicy project flag => rw [Moves.available_policy step]; exact h
    | _ => simp [Op.kinds] at hk
  · exact step.prepaid hk s g.owned en h

/-- Over a run from any reachable state during which the balance of an account stays enforced, its
balance less its holds stays nonnegative. -/
theorem Op.runAll_prepaid (digests : Digests) (before ops : List Op) (id : String)
    (enforced : ∀ n ≤ ops.length, (Op.runAll digests (before ++ ops.take n) Db.empty).books.Enforced id)
    (start : 0 ≤ (Op.runAll digests before Db.empty).books.available id) :
    ∀ n ≤ ops.length, 0 ≤ (Op.runAll digests (before ++ ops.take n) Db.empty).books.available id := by
  intro n
  induction n with
  | zero => intro _; simpa using start
  | succ n ih =>
    intro hn
    have hlt : n < ops.length := hn
    have next : before ++ ops.take (n + 1) = before ++ ops.take n ++ [ops[n]] := by
      rw [List.append_assoc, List.take_append_getElem hlt]
    rw [next, Op.runAll_concat]
    have g := Op.runAll_good digests (before ++ ops.take n) Good.empty
    exact Op.prepaid digests _ g (Op.runAll_sound digests _) (enforced n hlt.le) (ih hlt.le)

instance (b : Books) (account : String) : Decidable (b.Enforced account) :=
  inferInstanceAs (Decidable (∃ a ∈ b.accounts.rows, a.id = account ∧ a.enforceBalance = true))

/-- The sample account, enforced before its request, is not overdrawn when the request is settled. -/
theorem sample_prepaid :
    0 ≤ (Op.runAll sampleDigests (samplePrepaid ++ sampleRequestRun.take 3) Db.empty).books.available
      "account-project" := by
  have enforced : ∀ n ≤ sampleRequestRun.length, (Op.runAll sampleDigests (samplePrepaid ++ sampleRequestRun.take n)
      Db.empty).books.Enforced "account-project" := by decide +kernel
  have start : 0 ≤ (Op.runAll sampleDigests samplePrepaid Db.empty).books.available "account-project" := by
    decide +kernel
  exact Op.runAll_prepaid sampleDigests samplePrepaid sampleRequestRun "account-project" enforced start 3 le_rfl

end Xscope

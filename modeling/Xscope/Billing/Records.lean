/-
The steps of the operations that move no money: projects, keys, models, orders and checkouts, the
balance policy, and the reading and rebuilding of the projections.
-/
import Xscope.Billing.Steps

namespace Xscope

/-! ## Sessions -/

section Session

variable {α β : Type} {ks : List Kind} {db : Db}

theorem Step.commit {x : DbTx α} (g : Good db.books db.projections)
    (h : ∀ r, x db = .ok r → Step ks db.books db.projections r.2.books r.2.projections) :
    Step ks db.books db.projections (Tx.commit x db).2.books (Tx.commit x db).2.projections := by
  rcases Tx.commit_cases x db with ⟨a, s, hx, hc⟩ | ⟨e, -, hc⟩
  · rw [hc]; exact h (a, s) hx
  · rw [hc]; exact .refl ks g

/-- The steps of a session follow one another; a failure ends it where it stands. -/
theorem Step.session {x : DbSession α} {f : α → DbSession β}
    (hx : Step ks db.books db.projections (x db).2.books (x db).2.projections)
    (hf : ∀ a s, x db = (.ok a, s) → Step ks s.books s.projections (f a s).2.books (f a s).2.projections) :
    Step ks db.books db.projections ((x >>= f) db).2.books ((x >>= f) db).2.projections := by
  cases h : x db with
  | mk o s =>
    rw [h] at hx
    cases o with
    | ok a => rw [Session.bind_of_ok h]; exact hx.trans (hf a s h)
    | error e => rw [Session.bind_of_error h]; exact hx

end Session

/-! ## Projects, keys, models and orders -/

section Registry

variable {db : Db}

/-- Models are stored validated. -/
theorem Registry.models {b : Books} {catalog : Table CatalogRow} {prices : Table PriceRow}
    (hc : ∀ row ∈ catalog, row ∈ b.catalog ∨ row.definition.Priced)
    (hp : ∀ row ∈ prices, row ∈ b.prices ∨ row.definition.Priced) :
    Registry b { b with catalog := catalog, prices := prices } :=
  ⟨rfl, rfl, rfl, rfl, rfl, rfl, fun _ h => h, fun _ h => .inl h, hc, hp, fun _ _ h => h, fun _ h => .inl h,
    fun k h => ⟨k, h, rfl, rfl⟩, rfl, rfl⟩

/-- Keys are added, and a key that is replaced keeps its budget. -/
theorem Registry.keys {b : Books} {apiKeys : Table ApiKey}
    (hk : ∀ k ∈ b.apiKeys, ∃ k' ∈ apiKeys, k'.id = k.id ∧ k'.monthlyBudgetAmount = k.monthlyBudgetAmount) :
    Registry b { b with apiKeys := apiKeys } :=
  ⟨rfl, rfl, rfl, rfl, rfl, rfl, fun _ h => h, fun _ h => .inl h, fun _ h => .inl h, fun _ h => .inl h,
    fun _ _ h => h, fun _ h => .inl h, hk, rfl, rfl⟩

/-- Orders are inserted pending, with a positive amount. -/
theorem Registry.order {b : Books} {row : BillingOrder} {orders : Table BillingOrder}
    (h : b.orders.insert? row = some orders) (hpos : 0 < row.amount)
    (hst : row.status = .pending) : Registry b { b with orders := orders } := by
  refine ⟨rfl, rfl, rfl, rfl, rfl, rfl, fun _ h => h, fun _ h => .inl h, fun _ h => .inl h, fun _ h => .inl h,
    fun id o ho => Table.get?_insert?_old h ho, fun o ho => ?_, fun k h => ⟨k, h, rfl, rfl⟩, rfl, rfl⟩
  rcases (Table.mem_insert? h).1 ho with rfl | ho
  · exact .inr ⟨hpos, hst⟩
  · exact .inl ho

theorem createProject_step {value : Project} {r : Project × Db} (g : Good db.books db.projections)
    (h : createProject value db = .ok r) : Step [.registry] db.books db.projections r.2.books r.2.projections := by
  unfold createProject at h
  simp only [Tx.reject_bind, findById_bind, insertRow_bind, createBillingAccount] at h
  obtain ⟨-, -, -, ps, -, h⟩ := h
  obtain ⟨_, s, h1, h2⟩ := Tx.bind_ok.1 h
  cases Tx.pure_ok.1 h2
  simp only [insertRow_bind, Tx.pure_ok] at h1
  obtain ⟨hc, t, hi, h1⟩ := h1
  cases h1
  have project : Step [.registry] db.books db.projections { db.books with projects := ps } db.projections :=
    (Step.refl _ g).clerical (by simp) g ps _ _
  exact project.trans (.registry (.newAccount hc hi) (project.good g))

theorem bootstrapCatalog_step {r : Unit × Db} (g : Good db.books db.projections) (h : bootstrapCatalog db = .ok r) :
    Step [.registry] db.books db.projections r.2.books r.2.projections := by
  unfold bootstrapCatalog at h
  simp only [Tx.write_bind, Tx.write_ok] at h
  subst h
  refine .registry (.models (fun row hr => ?_) (fun row hr => ?_)) g
  · rcases Table.mem_insert?_getD hr with rfl | hr
    · exact .inr default_priced
    · exact .inl hr
  · rcases Table.mem_insert?_getD hr with rfl | hr
    · exact .inr default_priced
    · exact .inl hr

theorem storeModel_step {row : CatalogRow} {expected : Int} {r : Unit × Db} (g : Good db.books db.projections)
    (h : storeModel row expected db = .ok r) (hrow : row.definition.Priced) :
    Step [.registry] db.books db.projections r.2.books r.2.projections := by
  unfold storeModel at h
  split at h
  · obtain ⟨-, t, hi, h⟩ := insertRow_ok.1 h
    subst h
    refine .registry (.models (fun x hx => ?_) (fun x hx => .inl hx)) g
    rcases (Table.mem_insert? hi).1 hx with rfl | hx
    · exact .inr hrow
    · exact .inl hx
  · simp only [findById_bind, Tx.reject_bind, updateRow_ok] at h
    obtain ⟨-, rfl⟩ := h
    refine .registry (.models (fun x hx => ?_) (fun x hx => .inl hx)) g
    rcases Table.mem_put.1 hx with ⟨hx, -⟩ | ⟨rfl, -⟩
    · exact .inl hx
    · exact .inr hrow

theorem storePrice_step {id : String} {model : Model} {r : Unit × Db} (g : Good db.books db.projections)
    (h : storePrice id model db = .ok r) (hm : model.Priced) :
    Step [.registry] db.books db.projections r.2.books r.2.projections := by
  unfold storePrice at h
  rw [findById_bind] at h
  cases hg : (Slot.prices.get db).get? (id, model.priceVersion) with
  | some previous =>
    rw [hg] at h
    rw [← (Tx.reject_ok.1 h).2]; exact .refl _ g
  | none =>
    rw [hg] at h
    obtain ⟨-, t, hi, h⟩ := insertRow_ok.1 h
    subst h
    refine .registry (.models (fun x hx => .inl hx) (fun x hx => ?_)) g
    rcases (Table.mem_insert? hi).1 hx with rfl | hx
    · exact .inr hm
    · exact .inl hx

theorem putModel_step {id : String} {request : PutModel} {r : CatalogRow × Db} (g : Good db.books db.projections)
    (h : putModel id request db = .ok r) : Step [.registry] db.books db.projections r.2.books r.2.projections := by
  unfold putModel at h
  cases hv : request.model.validate with
  | error message => rw [hv] at h; simp at h
  | ok u =>
    rw [hv] at h
    simp only [Tx.reject_bind] at h
    obtain ⟨-, h⟩ := h
    obtain ⟨_, s, h1, h2⟩ := Tx.bind_ok.1 h
    obtain ⟨_, s', h3, h4⟩ := Tx.bind_ok.1 h2
    cases Tx.pure_ok.1 h4
    have model := storeModel_step g h1 (validate_priced hv)
    exact model.trans (storePrice_step (model.good g) h3 (validate_priced hv))

theorem requireModels_ok : ∀ {ms : List String} {r : Unit × Db}, requireModels ms db = .ok r → r.2 = db
  | [], r, h => by unfold requireModels at h; rw [← Tx.pure_ok.1 h]
  | m :: ms, r, h => by
    unfold requireModels at h
    rw [activeModel_bind] at h
    obtain ⟨row, -, -, -, h⟩ := h
    exact requireModels_ok h

theorem storeApiKey_step {now : Int} {request : ApiKeyRequest} {r : ApiKey × Db} (g : Good db.books db.projections)
    (h : storeApiKey now request db = .ok r) : Step [.registry] db.books db.projections r.2.books r.2.projections := by
  unfold storeApiKey at h
  simp only [checkDomain_bind, insertRow_bind] at h
  obtain ⟨-, -, -, t, hi, h⟩ := h
  cases Tx.pure_ok.1 h
  exact .registry (.keys fun k hk => ⟨k, (Table.mem_insert? hi).2 (.inr hk), rfl, rfl⟩) g

theorem issueApiKey_step {now : Int} {request : ApiKeyRequest} {r : ApiKey × Db} (g : Good db.books db.projections)
    (h : issueApiKey now request db = .ok r) : Step [.registry] db.books db.projections r.2.books r.2.projections := by
  unfold issueApiKey at h
  simp only [checkDomain_bind] at h
  obtain ⟨-, -, h⟩ := h
  obtain ⟨_, s, h1, h2⟩ := Tx.bind_ok.1 h
  have hs := requireModels_ok h1
  simp only at hs
  subst hs
  simp only [findById_bind, Tx.expect_bind, Tx.reject_bind] at h2
  obtain ⟨-, -, -, -, h2⟩ := h2
  exact storeApiKey_step g h2

theorem revokeApiKey_step {now : Int} {id : String} {r : Unit × Db} (g : Good db.books db.projections)
    (h : revokeApiKey now id db = .ok r) : Step [.registry] db.books db.projections r.2.books r.2.projections := by
  unfold revokeApiKey at h
  simp only [findById_bind, Tx.expect_bind, updateRow_ok] at h
  obtain ⟨old, hold, rfl⟩ := h
  have hold := (Option.filter_eq_some_iff.1 hold).1
  have hold_id : old.id = id := Table.get?_key hold
  refine .registry (.keys fun k hk => ?_) g
  by_cases hid : k.id = id
  · -- the revoked key itself: the row that replaces it has its budget
    have : k = old := by
      have := Table.get?_of_mem hk
      rw [show key k = id from hid] at this
      exact Option.some.inj (this.symm.trans hold)
    subst this
    exact ⟨_, Table.mem_put.2 (.inr ⟨rfl, ⟨k, hk, rfl⟩⟩), rfl, rfl⟩
  · refine ⟨k, Table.mem_put.2 (.inl ⟨hk, ?_⟩), rfl, rfl⟩
    intro he
    exact hid (he.trans hold_id)

theorem createOrder_step {request : CreateOrderRequest} {r : BillingOrder × Db} (g : Good db.books db.projections)
    (h : createOrder request db = .ok r) : Step [.registry] db.books db.projections r.2.books r.2.projections := by
  unfold createOrder at h
  simp only [checkDomain_bind, Tx.reject_bind, findById_bind, Tx.expect_bind, insertRow_bind, not_le] at h
  obtain ⟨-, -, hpos, -, -, -, -, t, hi, h⟩ := h
  cases Tx.pure_ok.1 h
  exact .registry (.order hi hpos rfl) g

theorem alipayCheckoutOpen_step {id : String} {provider : Alipay} {r : PaymentCheckout × Db}
    (g : Good db.books db.projections) (h : alipayCheckoutOpen id provider db = .ok r) :
    Step [.registry] db.books db.projections r.2.books r.2.projections := by
  unfold alipayCheckoutOpen checkProviderAmount at h
  simp only [findById_bind, Tx.expect_bind, Tx.reject_bind] at h
  obtain ⟨order, -, -, -, h⟩ := h
  cases hg : (Slot.checkouts.get db).get? id with
  | some prior =>
    rw [hg] at h
    simp only [Tx.reject_bind] at h
    cases Tx.pure_ok.1 h.2; exact .refl _ g
  | none =>
    rw [hg] at h
    simp only [insertRow_bind] at h
    obtain ⟨-, t, -, h⟩ := h
    cases Tx.pure_ok.1 h
    exact (Step.refl _ g).clerical (by simp) g _ t _

theorem alipayCheckoutStore_step {id qr : String} {r : PaymentCheckout × Db} (g : Good db.books db.projections)
    (h : alipayCheckoutStore id qr db = .ok r) :
    Step [.registry] db.books db.projections r.2.books r.2.projections := by
  unfold alipayCheckoutStore at h
  simp only [findById_bind, Tx.expect_bind, updateRow_bind] at h
  obtain ⟨_, -, _, -, h⟩ := h
  cases Tx.pure_ok.1 h
  exact (Step.refl _ g).clerical (by simp) g _ _ _

end Registry

/-! ## Balances and the balance policy -/

section Policy

variable {db : Db}

theorem fillBalance_step {project : String} {a : BillingAccount} {r : (Bool × Int) × Db}
    (g : Good db.books db.projections) (h : readBalance project a db = .ok r) :
    Step [.registry] db.books db.projections r.2.books r.2.projections := by
  unfold readBalance at h
  rw [findById_bind] at h
  cases hg : (Slot.balances.get db).get? a.id with
  | some row => rw [hg] at h; cases Tx.pure_ok.1 h; exact .refl _ g
  | none =>
    rw [hg] at h
    simp only [lockAccount_bind] at h
    obtain ⟨-, -, h⟩ := h
    obtain ⟨row, s, h1, h2⟩ := Tx.bind_ok.1 h
    obtain ⟨p, hp, hs, keep, -⟩ := account_spec h1 g.shows (fun _ => ⟨rfl, rfl⟩)
    simp only at hp
    subst hp
    cases Tx.pure_ok.1 h2
    exact .fill _ g keep hs

theorem projectBalance_step {project : String} (g : Good db.books db.projections) :
    Step [.registry] db.books db.projections (projectBalance project db).2.books
      (projectBalance project db).2.projections := by
  refine Step.session (.commit g fun r h => (ensureAccountForProject_step g h).1) fun a s hs => ?_
  have g' : Good s.books s.projections := (ensureAccountForProject_step g (Tx.commit_ok.1 hs)).1.good g
  exact .commit g' fun r h => fillBalance_step g' h

theorem updatePolicy_step {a : BillingAccount} {flag : Bool} {r : Unit × Db} (g : Good db.books db.projections)
    (ha : a ∈ db.books.accounts) (h : updateRow Slot.accounts { a with enforceBalance := flag } db = .ok r) :
    Step [.policy] db.books db.projections r.2.books r.2.projections := by
  cases updateRow_ok.1 h
  exact ⟨(Move.policy a ha flag).moves (by simp), g.shows, ⟨g.covered.reservations, g.covered.usageEvents⟩⟩

theorem updateBalancePolicy_step {project : String} {flag : Bool} (g : Good db.books db.projections) :
    Step [.registry, .policy] db.books db.projections (updateBalancePolicy project flag db).2.books
      (updateBalancePolicy project flag db).2.projections := by
  refine Step.session (.commit g fun r h => (ensureAccountForProject_step g h).1.mono (by simp)) fun a s hs => ?_
  obtain ⟨step, -, ha, -⟩ := ensureAccountForProject_step g (Tx.commit_ok.1 hs)
  have g' : Good s.books s.projections := step.good g
  refine Step.session (.commit g' fun r h => (updatePolicy_step g' ha h).mono (by simp)) fun _ t ht => ?_
  exact (projectBalance_step ((updatePolicy_step g' ha (Tx.commit_ok.1 ht)).good g')).mono (by simp)

end Policy

/-! ## Projection maintenance -/

section Maintenance

variable {db : Db}

theorem projectedSpend_step {project key : String} {now : Int} {r : Int × Db} (g : Good db.books db.projections)
    (h : projectedSpend project key now db = .ok r) :
    Step [.registry] db.books db.projections r.2.books r.2.projections := by
  unfold projectedSpend at h
  rw [findById_bind] at h
  cases hg : (Slot.monthSpends.get db).get? (key, Calendar.firstOfMonth (Calendar.ofTimestamp now)) with
  | some row => rw [hg] at h; cases Tx.pure_ok.1 h; exact .refl _ g
  | none =>
    rw [hg] at h
    simp only [lockAccount_bind] at h
    obtain ⟨-, -, h⟩ := h
    obtain ⟨row, s, h1, h2⟩ := Tx.bind_ok.1 h
    obtain ⟨p, hp, hs, keep, -⟩ := monthly_spec h1 g.shows (Calendar.firstOfMonth_idem _) (fun _ => rfl)
    simp only at hp
    subst hp
    cases Tx.pure_ok.1 h2
    exact .fill _ g keep hs

/-- Overwriting counters with the sums over the books fills them. -/
theorem rebuildCounters_spec {owner : BillingAccount} {request : CheckRequest} {r : Unit × Db}
    (g : Good db.books db.projections) (hm : Calendar.firstOfMonth request.month = request.month)
    (fb : Fits (db.books.balance owner.id)) (fh : Fits (db.books.held owner.id))
    (fk : Fits (db.books.keyHeld request.apiKeyId)) (fs : Fits (db.books.spent request.apiKeyId request.month))
    (h : rebuildCounters owner request (db.books.balance owner.id) (db.books.held owner.id)
      (db.books.keyHeld request.apiKeyId) (db.books.spent request.apiKeyId request.month) db = .ok r) :
    ∃ p, r.2 = db.withProjections p ∧ p.Shows db.books.totals ∧ db.projections.Keeps p := by
  unfold rebuildCounters at h
  obtain ⟨a, s, h1, h2⟩ := Tx.bind_ok.1 h
  obtain ⟨p1, hp1, hs1, keep1, ha, -⟩ := account_spec h1 g.shows (fun _ => ⟨rfl, rfl⟩)
  simp only at hp1
  subst hp1
  have eid : a.billingAccountId = owner.id := Table.get?_key ha
  rw [updateRow_bind] at h2
  obtain ⟨k, s, h3, h4⟩ := Tx.bind_ok.1 h2
  obtain ⟨p2, hp2, hs2, keep2, hk, -⟩ := keyHold_spec (t := db.books.totals) h3
    (shows_putBalance hs1 (by rw [eid]; rfl) (by rw [eid]; rfl) fb fh (fun _ _ => ⟨rfl, rfl⟩) rfl rfl) (fun _ => rfl)
  simp only at hp2
  subst hp2
  have kid : k.apiKeyId = request.apiKeyId := Table.get?_key hk
  rw [updateRow_bind] at h4
  obtain ⟨m, s, h5, h6⟩ := Tx.bind_ok.1 h4
  obtain ⟨p3, hp3, hs3, keep3, hmonth, -⟩ := monthly_spec (t := db.books.totals) h5
    (shows_putKeyHold hs2 (by rw [kid]; rfl) fk (fun _ _ => rfl) rfl rfl rfl) hm (fun _ => rfl)
  simp only at hp3
  subst hp3
  obtain ⟨mk, mm⟩ := Prod.mk.inj (Table.get?_key hmonth : (m.apiKeyId, m.month) = _)
  cases updateRow_ok.1 h6
  refine ⟨_, rfl, shows_putMonth hs3 (by rw [mk, mm]; rfl) fs (by rw [mm]; exact hm) (fun _ _ _ => rfl) rfl rfl rfl, ?_⟩
  exact keep1.trans ((p1.keeps_putBalance _).trans (keep2.trans ((p2.keeps_putKeyHold _).trans
    (keep3.trans (p3.keeps_putMonth _)))))

theorem projectionCheck_step {call : Call} {project : String} {request : CheckRequest} {rebuild : Bool}
    {r : CheckReport × Db} (g : Good db.books db.projections)
    (h : projectionCheck call project request rebuild db = .ok r) :
    Step [.registry] db.books db.projections r.2.books r.2.projections := by
  unfold projectionCheck at h
  simp only [Tx.reject_bind, lockAccount_bind, findById_bind, Tx.expect_bind, historicalBalanceAndHeld_bind,
    historicalSpend_bind, historicalKeyHold, total_bind, not_not] at h
  obtain ⟨hm, owner, -, -, -, fb, fh, fk, stop, hstop, fs, h⟩ := h
  rw [spentBetween_eq db.books request.apiKeyId hm hstop] at fs h
  split at h
  · obtain ⟨_, s, h1, h2⟩ := Tx.bind_ok.1 h
    obtain ⟨p, hp, hs, keep⟩ := rebuildCounters_spec g hm fb fh fk fs h1
    simp only at hp
    subst hp
    obtain ⟨_, s, h3, h4⟩ := Tx.bind_ok.1 h2
    obtain ⟨o, rfl, -⟩ := appendEvent_ok h3
    cases Tx.pure_ok.1 h4
    exact .fill _ g keep hs
  · cases Tx.pure_ok.1 h; exact .refl _ g

end Maintenance

end Xscope

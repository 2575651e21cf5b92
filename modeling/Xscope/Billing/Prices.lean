/-
Price versions. A price row is written once; the catalog row of a model always has the price row of
its own version, and a reservation freezes the definition found under the version it names. So the
usage of one model version costs the same through either protocol, whenever it is charged.
-/
import Xscope.Billing.Keeping
import Xscope.Billing.Lifecycle

namespace Xscope

/-! ## The catalog and the price history -/

/-- Every row found by its key is still found there. -/
def Table.Grows {ρ κ : Type} [Keyed ρ κ] [DecidableEq κ] (t t' : Table ρ) : Prop :=
  ∀ k x, t.get? k = some x → t'.get? k = some x

section Grows

variable {ρ κ : Type} [Keyed ρ κ] [DecidableEq κ] {t t' t'' : Table ρ}

theorem Table.Grows.refl (t : Table ρ) : t.Grows t := fun _ _ h => h

theorem Table.Grows.trans (h : t.Grows t') (h' : t'.Grows t'') : t.Grows t'' := fun k x hx => h' k x (h k x hx)

theorem Table.grows_insert? {r : ρ} (h : t.insert? r = some t') : t.Grows t' :=
  fun _ _ hx => Table.get?_insert?_old h hx

theorem Table.grows_insert?_getD (t : Table ρ) (r : ρ) : t.Grows ((t.insert? r).getD t) := by
  cases h : t.insert? r with
  | none => exact .refl t
  | some t' => exact Table.grows_insert? h

end Grows

/-- The catalog and the price history agree. -/
structure Books.Versioned (b : Books) : Prop where
  price : ∀ p ∈ b.prices, p.definition.id = p.modelId ∧ p.definition.priceVersion = p.version ∧
    ∃ row, b.catalog.get? p.modelId = some row
  entry : ∀ row ∈ b.catalog, row.definition.id = row.id ∧
    ∃ p, b.prices.get? (row.id, row.definition.priceVersion) = some p ∧ p.definition = row.definition

theorem Books.Versioned.empty : Db.empty.books.Versioned :=
  ⟨fun p h => absurd h (Table.not_mem_empty p), fun row h => absurd h (Table.not_mem_empty row)⟩

/-- A version of a model is stored: the price is there or it is added, and then the catalog row names it. -/
theorem Books.Versioned.store {b : Books} (v : b.Versioned) (row : CatalogRow) {cs : Table CatalogRow}
    {ps : Table PriceRow} (hid : row.definition.id = row.id) (stored : cs.get? row.id = some row)
    (kept : ∀ k x, b.catalog.get? k = some x → ∃ y, cs.get? k = some y) (origin : ∀ x ∈ cs, x = row ∨ x ∈ b.catalog)
    (grows : b.prices.Grows ps)
    (added : ∀ p ∈ ps, p ∈ b.prices ∨ p = ⟨row.id, row.definition.priceVersion, row.definition⟩)
    (price : ∃ p, ps.get? (row.id, row.definition.priceVersion) = some p ∧ p.definition = row.definition) :
    ({ b with catalog := cs, prices := ps } : Books).Versioned := by
  refine ⟨fun p hp => ?_, fun x hx => ?_⟩
  · rcases added p hp with hp | rfl
    · obtain ⟨id, version, x, hx⟩ := v.price p hp
      exact ⟨id, version, kept _ x hx⟩
    · exact ⟨hid, rfl, row, stored⟩
  · rcases origin x hx with rfl | hx
    · exact ⟨hid, price⟩
    · obtain ⟨id, p, hp, same⟩ := v.entry x hx
      exact ⟨id, p, grows _ p hp, same⟩

/-- What a relation between two states of the database keeps of the prices. -/
structure Repriced (db db' : Db) : Prop where
  versioned : db.books.Versioned → db'.books.Versioned
  prices : db.books.prices.Grows db'.books.prices

theorem Repriced.of_eq {db db' : Db} (hc : db'.books.catalog = db.books.catalog)
    (hp : db'.books.prices = db.books.prices) :
    Repriced db db' :=
  ⟨fun v => ⟨by rw [hc, hp]; exact v.price, by rw [hc, hp]; exact v.entry⟩, by rw [hp]; exact .refl _⟩

instance : IsPreorder Db Repriced where
  refl _ := .of_eq rfl rfl
  trans _ _ _ h h' := ⟨h'.versioned ∘ h.versioned, h.prices.trans h'.prices⟩

instance : Slot.projects.Kept Repriced := ⟨fun _ _ => .of_eq rfl rfl⟩

instance : Slot.apiKeys.Kept Repriced := ⟨fun _ _ => .of_eq rfl rfl⟩

instance : Frame Repriced where
  accounts := ⟨fun _ _ => .of_eq rfl rfl⟩
  reservations := ⟨fun _ _ => .of_eq rfl rfl⟩
  usageEvents := ⟨fun _ _ => .of_eq rfl rfl⟩
  transactions := ⟨fun _ _ => .of_eq rfl rfl⟩
  entries := ⟨fun _ _ => .of_eq rfl rfl⟩
  orders := ⟨fun _ _ => .of_eq rfl rfl⟩
  payments := ⟨fun _ _ => .of_eq rfl rfl⟩
  refunds := ⟨fun _ _ => .of_eq rfl rfl⟩
  checkouts := ⟨fun _ _ => .of_eq rfl rfl⟩
  receipts := ⟨fun _ _ => .of_eq rfl rfl⟩
  reviews := ⟨fun _ _ => .of_eq rfl rfl⟩
  reviewAudits := ⟨fun _ _ => .of_eq rfl rfl⟩
  balances := ⟨fun _ _ => .of_eq rfl rfl⟩
  keyHolds := ⟨fun _ _ => .of_eq rfl rfl⟩
  monthSpends := ⟨fun _ _ => .of_eq rfl rfl⟩
  appendEvent call account kind aggregate payload db _ db' h := by
    obtain ⟨o, rfl, -⟩ := appendEvent_ok h
    exact .of_eq rfl rfl

/-! ## The two writers of the catalog -/

section Writers

variable {db : Db} {id : String} {request : PutModel}

theorem bootstrapCatalog_repriced (db : Db) : Repriced db (Tx.commit bootstrapCatalog db).2 := by
  let row : CatalogRow := ⟨Model.default.id, 1, true, some "demo-pool", Model.default⟩
  let price : PriceRow := ⟨Model.default.id, Model.default.priceVersion, Model.default⟩
  show Repriced db { db with books := { db.books with
    catalog := (db.books.catalog.insert? row).getD db.books.catalog
    prices := (db.books.prices.insert? price).getD db.books.prices } }
  refine ⟨fun v => ?_, Table.grows_insert?_getD _ _⟩
  cases hc : db.books.catalog.insert? row with
  | none =>
    -- the model is there: only its first version may be missing from the history
    obtain ⟨old, ho⟩ := Table.insert?_none_iff.1 hc
    refine ⟨fun p hp => ?_, fun x hx => ?_⟩
    · rcases Table.mem_insert?_getD hp with rfl | hp
      · exact ⟨rfl, rfl, old, ho⟩
      · exact v.price p hp
    · obtain ⟨own, p, hp, same⟩ := v.entry x hx
      exact ⟨own, p, Table.grows_insert?_getD _ _ _ _ hp, same⟩
  | some cs =>
    -- a model without a row has no price either
    have absent : db.books.catalog.get? row.id = none := (Table.insert?_some hc).1
    have fresh : db.books.prices.get? (key price) = none := by
      refine Table.get?_none_iff.2 fun p hp he => ?_
      obtain ⟨-, -, x, hx⟩ := v.price p hp
      rw [show p.modelId = row.id from congrArg Prod.fst he, absent] at hx
      cases hx
    obtain ⟨ps, hp⟩ := Table.insert?_of_none fresh
    rw [hp]
    exact v.store row rfl (Table.get?_insert?_self hc) (fun _ _ hx => Table.insert?_keeps hc hx)
      (fun x hx => (Table.mem_insert? hc).1 hx) (Table.grows_insert? hp)
        (fun x hx => ((Table.mem_insert? hp).1 hx).symm)
      ⟨price, Table.get?_insert?_self hp, rfl⟩

/-- The compare-and-set of a model: a first revision needs an unknown model, a later one the revision stored. -/
def Expected (db : Db) (id : String) (revision : Int) : Prop :=
  if revision = 0 then db.books.catalog.get? id = none
  else ∃ old, db.books.catalog.get? id = some old ∧ old.revision = revision

theorem storeModel_inv {row : CatalogRow} {expected : Int} {r : Unit × Db} (h : storeModel row expected db = .ok r) :
    Expected db row.id expected ∧ ∃ cs, r.2 = Slot.catalog.set cs db ∧ cs.get? row.id = some row ∧
      (∀ k x, db.books.catalog.get? k = some x → ∃ y, cs.get? k = some y) ∧ ∀ x ∈ cs, x = row ∨
        x ∈ db.books.catalog := by
  unfold storeModel at h
  unfold Expected
  split at h
  · rename_i hz
    obtain ⟨-, cs, hi, h⟩ := insertRow_ok.1 h
    subst h
    rw [if_pos hz]
    exact ⟨(Table.insert?_some hi).1, cs, rfl, Table.get?_insert?_self hi, fun _ _ hx => Table.insert?_keeps hi hx,
      fun x hx => (Table.mem_insert? hi).1 hx⟩
  · rename_i hz
    simp only [findById_bind, Tx.reject_bind, updateRow_ok] at h
    obtain ⟨same, rfl⟩ := h
    rw [if_neg hz]
    cases hg : (Slot.catalog.get db).get? row.id with
    | none => rw [hg] at same; simp at same
    | some old =>
      rw [hg] at same
      refine ⟨⟨old, hg, by simpa using same⟩, _, rfl, Table.get?_put_self
        (show db.books.catalog.get? row.id = some old from hg), fun _ _ hx => Table.put_keeps row hx,
        fun x hx => ?_⟩
      rcases Table.mem_put.1 hx with ⟨hx, -⟩ | ⟨rfl, -⟩
      · exact .inr hx
      · exact .inl rfl

theorem storePrice_inv {model : Model} {r : Unit × Db} (h : storePrice id model db = .ok r) :
    ∃ ps, r.2 = Slot.prices.set ps db ∧ db.books.prices.Grows ps ∧
      (∀ p ∈ ps, p ∈ db.books.prices ∨ p = ⟨id, model.priceVersion, model⟩) ∧
      ∃ p, ps.get? (id, model.priceVersion) = some p ∧ p.definition = model := by
  unfold storePrice at h
  rw [findById_bind] at h
  cases hg : (Slot.prices.get db).get? (id, model.priceVersion) with
  | some previous =>
    rw [hg] at h
    obtain ⟨same, h⟩ := Tx.reject_ok.1 h
    rw [← h]
    exact ⟨_, rfl, .refl _, fun p hp => .inl hp, previous, hg, by simpa using same⟩
  | none =>
    rw [hg] at h
    obtain ⟨-, ps, hi, h⟩ := insertRow_ok.1 h
    subst h
    exact ⟨ps, rfl, Table.grows_insert? hi, fun p hp => ((Table.mem_insert? hi).1 hp).symm, _,
      Table.get?_insert?_self hi, rfl⟩

/-- A stored model replaced exactly the revision that was read, and its price version is in the history. -/
theorem putModel_inv {r : CatalogRow × Db} (h : putModel id request db = .ok r) :
    Expected db id request.expectedRevision ∧
      r.1 = ⟨id, request.expectedRevision + 1, request.enabled, request.defaultPool, request.model⟩ ∧ Repriced db r.2 ∧
      r.2.books.catalog.get? id = some r.1 := by
  unfold putModel at h
  cases hv : request.model.validate with
  | error message => rw [hv] at h; simp at h
  | ok u =>
    rw [hv] at h
    simp only [Tx.reject_bind, not_or, not_not] at h
    obtain ⟨⟨own, -, -⟩, h⟩ := h
    obtain ⟨_, s, h1, h2⟩ := Tx.bind_ok.1 h
    obtain ⟨_, s', h3, h4⟩ := Tx.bind_ok.1 h2
    cases Tx.pure_ok.1 h4
    obtain ⟨cas, cs, hs, stored, kept, origin⟩ := storeModel_inv h1
    simp only at hs
    subst hs
    obtain ⟨ps, hs', grows, added, price⟩ := storePrice_inv h3
    simp only at hs'
    subst hs'
    exact ⟨cas, rfl, ⟨fun v => v.store _ own.symm stored kept origin grows added price, grows⟩, stored⟩

theorem putModel_repriced (id : String) (request : PutModel) (db : Db) :
    Repriced db (Tx.commit (putModel id request) db).2 := by
  rcases Tx.commit_cases (putModel id request) db with ⟨row, s, h, hc⟩ | ⟨e, -, hc⟩
  · rw [hc]
    exact (putModel_inv h).2.2.1
  · rw [hc]
    exact refl_of Repriced db

end Writers

theorem Op.repriced (digests : Digests) (op : Op) (db : Db) : Repriced db (op.run digests db) :=
  op.keeps_catalog digests db (bootstrapCatalog_repriced db) fun id request => putModel_repriced id request db

/-! ## What is charged at a price -/

/-- The usage of a successful event costs what its price version says, wherever that version is stored. -/
def Costed (prices : Table PriceRow) (u : UsageRow) : Prop :=
  u.status = "succeeded" → (u.inputTokens = 0 ∧ u.outputTokens = 0 ∧ u.costMicrounits = 0) ∨
    ∃ p, prices.get? (u.modelId, u.priceVersion) = some p ∧
      usageCostMicrounits p.definition u.inputTokens u.outputTokens = .ok u.costMicrounits

/-- The price frozen in a reservation is the one stored under the version it names. -/
def Frozen (prices : Table PriceRow) (r : Reservation) : Prop :=
  r.price.priceVersion = r.spec.priceVersion ∧
    ∃ p, prices.get? (r.spec.modelId, r.spec.priceVersion) = some p ∧ p.definition = r.price

structure Books.PricedBy (b : Books) (prices : Table PriceRow) : Prop where
  frozen : ∀ r ∈ b.reservations, Frozen prices r
  costed : ∀ u ∈ b.usageEvents, Costed prices u

theorem Costed.grows {t t' : Table PriceRow} {u : UsageRow} (h : Costed t u) (g : t.Grows t') : Costed t' u :=
  fun ok => (h ok).imp_right fun ⟨p, hp, cost⟩ => ⟨p, g _ p hp, cost⟩

theorem Frozen.grows {t t' : Table PriceRow} {r : Reservation} (h : Frozen t r) (g : t.Grows t') : Frozen t' r :=
  ⟨h.1, h.2.imp fun p ⟨hp, same⟩ => ⟨g _ p hp, same⟩⟩

theorem Books.PricedBy.grows {b : Books} {t t' : Table PriceRow} (h : b.PricedBy t) (g : t.Grows t') : b.PricedBy t' :=
  ⟨fun r hr => (h.frozen r hr).grows g, fun u hu => (h.costed u hu).grows g⟩

theorem SameTerms.frozen {t : Table PriceRow} {old row : Reservation} (terms : SameTerms old row)
    (h : Frozen t old) : Frozen t row := by
  unfold Frozen
  rw [terms.price, terms.spec]
  exact h

/-- A settlement costs what the frozen price says. -/
theorem Frozen.settled {t : Table PriceRow} {r : Reservation} (h : Frozen t r) {now amount : Int} {a : BillingAccount}
    {request : SettleRequest}
    (cost : usageCostMicrounits r.price request.inputTokens request.outputTokens = .ok amount) :
    Costed t (settledUsage now a r request amount) := by
  obtain ⟨version, p, hp, same⟩ := h
  refine fun _ => .inr ⟨p, ?_, by rw [same]; exact cost⟩
  show t.get? (r.spec.modelId, r.price.priceVersion) = some p
  rw [version]
  exact hp

/-- Recorded usage costs what the stored price says. -/
theorem priceUsage_costed {e : UsageEvent} {db db' : Db} {cost now : Int} (h : priceUsage e db = .ok (cost, db')) :
    Costed db.books.prices (recordedUsage now e cost) := by
  unfold priceUsage at h
  simp only [checkRequest_bind, findById_bind, Tx.expect_bind, Tx.reject_bind] at h
  obtain ⟨valid, k, -, -, h⟩ := h
  intro succeeded
  split at h
  · obtain ⟨m, s, h1, h2⟩ := Tx.bind_ok.1 h
    simp only [historicalPrice, findById_bind, Tx.expect_bind, Tx.pure_ok] at h1
    obtain ⟨row, hrow, h1⟩ := h1
    cases h1
    obtain ⟨v, hc, he⟩ := checkDomain_ok.1 h2
    cases he
    exact .inr ⟨row, hrow, hc⟩
  · rename_i free
    cases Tx.pure_ok.1 h
    obtain ⟨hi, ho⟩ := validateUsage_tokens valid
    simp only [isChargeableUsage, show e.status = "succeeded" from succeeded, BEq.rfl, Bool.true_and, Bool.or_eq_true,
      decide_eq_true_eq, not_or, not_lt] at free
    exact .inl ⟨le_antisymm free.1 hi, le_antisymm free.2 ho, rfl⟩

/-! ## What each operation leaves -/

section Steps

variable {prices : Table PriceRow} {b b' : Books}

/-- Moves that neither admit a reservation nor record usage keep every price. -/
theorem Move.pricedBy {k : Kind} (m : Move k b b') (hr : ∀ now, k ≠ .reserve now) (hu : k.records = false)
    (h : b.PricedBy prices) :
    b'.PricedBy prices := by
  refine ⟨fun r hm => ?_, fun u hm => ?_⟩
  · obtain ⟨old, ho, terms⟩ := m.origin hr r hm
    exact terms.frozen (h.frozen old ho)
  · cases m with
    | registry g => rw [g.usageEvents] at hm; exact h.costed u hm
    | reserve now a request entry key amount rs ha hp wf hm hid hk hkid cost fresh unused funds budget hi =>
      exact absurd rfl (hr now)
    | settle call a r request amount us ha hp hold hs wf hin hout cost funds hi post =>
      obtain ⟨ts, es, rfl⟩ := post.eq
      rcases (Table.mem_insert? hi).1 hm with rfl | hm
      · exact (h.frozen r hold).settled cost
      · exact h.costed u hm
    | usage call a e cost us ha hp unreserved priced funds hi post => cases hu
    | topUp call a o id provider reference currency key description ps ha hp ho hpend hfit hi post =>
      obtain ⟨ts, es, rfl⟩ := post.eq; exact h.costed u hm
    | refund call a o p row key description rs ha hp ho hpay hprov hrow hst hpos le limit funds hi post =>
      obtain ⟨ts, es, rfl⟩ := post.eq; exact h.costed u hm
    | prepare call a o p row key description rs ha hp ho hpay hprov hrow hst hpos limit funds hi post =>
      obtain ⟨ts, es, rfl⟩ := post.eq; exact h.costed u hm
    | complete call a o p row trade ha hp ho hpay hprov hrow hpid hst post =>
      obtain ⟨ts, es, rfl⟩ := post.eq; exact h.costed u hm
    | _ => exact h.costed u hm

/-- An admission freezes the price of the catalog row it read. -/
theorem Admitted.pricedBy {a : BillingAccount} {now : Int} {request : ReserveRequest} {row : Reservation}
    (h : Admitted b a now request row b') (v : b.Versioned) (priced : b.PricedBy b.prices) : b'.PricedBy b.prices := by
  obtain ⟨⟨entry, hm, hid, version, amount, rfl⟩, rs, hi, rfl⟩ := h
  obtain ⟨-, p, hp, same⟩ := v.entry entry hm
  rw [hid, ← version] at hp
  refine ⟨fun r hr => ?_, priced.costed⟩
  rcases (Table.mem_insert? hi).1 hr with rfl | hr
  · exact ⟨version.symm, p, hp, same⟩
  · exact priced.frozen r hr

/-- The usage events after recorded usage: those of before, and at most the event priced. -/
theorem recordUsage_usage {db : Db} {call : Call} {e : UsageEvent} (g : Good db.books db.projections) {u : UsageRow}
    (hu : u ∈ (recordUsage call e db).2.books.usageEvents) :
    u ∈ db.books.usageEvents ∨ ∃ cost, priceUsage e db = .ok (cost, db) ∧ u = recordedUsage call.now e cost := by
  unfold recordUsage at hu
  rcases Tx.commit_cases (priceUsage e) db with ⟨cost, s, h1, hc⟩ | ⟨err, -, hc⟩
  · rw [Session.bind_of_ok hc] at hu
    obtain ⟨hs, priced⟩ := priceUsage_spec h1
    simp only at hs priced
    subst hs
    rcases Tx.commit_cases (ensureAccountForProject e.projectId) s with ⟨a, s', h2, hc'⟩ | ⟨err, -, hc'⟩
    · rw [Session.bind_of_ok hc'] at hu
      obtain ⟨step, ⟨t, ht⟩, ha, hp⟩ := ensureAccountForProject_step g h2
      simp only at ht
      subst ht
      unfold storeOnce at hu
      cases hs : storeUsage call a e cost (Slot.accounts.set t s) with
      | error err => rw [hs] at hu; exact .inl hu
      | ok r =>
        rw [hs] at hu
        obtain ⟨_ | ⟨⟩, s'⟩ := r
        · exact .inl hu
        · obtain ⟨us, hi, he⟩ := (storeUsage_step (step.good g) ha hp priced hs rfl).2
          change u ∈ s'.books.usageEvents at hu
          simp only at he
          rw [he] at hu
          rcases (Table.mem_insert? hi).1 hu with rfl | hu
          · exact .inr ⟨cost, h1, rfl⟩
          · exact .inl hu
    · rw [Session.bind_of_error hc'] at hu; exact .inl hu
  · rw [Session.bind_of_error hc] at hu; exact .inl hu

end Steps

/-- What holds of the prices in every reachable database. -/
structure Db.Priced (db : Db) : Prop where
  good : Good db.books db.projections
  versioned : db.books.Versioned
  priced : db.books.PricedBy db.books.prices

theorem Db.Priced.empty : Db.empty.Priced :=
  ⟨.empty, .empty, fun r h => absurd h (Table.not_mem_empty r), fun u h => absurd h (Table.not_mem_empty u)⟩

theorem Op.priced (digests : Digests) (op : Op) {db : Db} (h : db.Priced) : (op.run digests db).Priced := by
  have step := op.step digests h.good
  have repriced := op.repriced digests db
  refine ⟨step.good h.good, repriced.versioned h.versioned, .grows ?_ repriced.prices⟩
  cases op with
  | reserve call request =>
    show (Tx.commit (reserveMoney call request) db).2.books.PricedBy db.books.prices
    rcases Tx.commit_cases (reserveMoney call request) db with ⟨row, s, hx, hc⟩ | ⟨e, -, hc⟩
    · rw [hc]
      obtain ⟨-, a, -, -, -, ⟨same, -⟩ | admitted⟩ := reserveMoney_inv h.good hx
      · simp only at same
        rw [same]
        exact h.priced
      · exact admitted.pricedBy h.versioned h.priced
    · rw [hc]
      exact h.priced
  | recordUsage call event =>
    refine ⟨fun r hr => ?_, fun u hu => ?_⟩
    · obtain ⟨old, ho, terms⟩ := step.moves.origin (by simp [Op.kinds]) r hr
      exact terms.frozen (h.priced.frozen old ho)
    · rcases recordUsage_usage h.good hu with hu | ⟨cost, hp, rfl⟩
      · exact h.priced.costed u hu
      · exact priceUsage_costed hp
  | _ => exact step.moves.keeps (fun k hk _ _ m => m.pricedBy
      (by rintro now rfl; simp [Op.kinds] at hk) (Op.no_usage rfl k hk)) h.priced

/-! ## Runs -/

theorem Op.runAll_priced (digests : Digests) (ops : List Op) {db : Db} (h : db.Priced) :
    (Op.runAll digests ops db).Priced := by
  induction ops generalizing db with
  | nil => exact h
  | cons op ops ih => exact ih (op.priced digests h)

theorem Op.runAll_repriced (digests : Digests) (ops : List Op) (db : Db) : Repriced db (Op.runAll digests ops db) := by
  induction ops generalizing db with
  | nil => exact refl_of Repriced db
  | cons op ops ih => exact trans_of Repriced (op.repriced digests db) (ih _)

/-- The frozen price is what the history answers for the version recorded. -/
theorem Frozen.historical {db : Db} {r : Reservation} (h : Frozen db.books.prices r) :
    historicalPrice r.spec.modelId r.spec.priceVersion db = .ok (r.price, db) := by
  obtain ⟨-, p, hp, same⟩ := h
  simp only [historicalPrice, findById_bind, Tx.expect_bind, Tx.pure_ok]
  exact ⟨p, hp, by rw [same]⟩

/-- Successful usage of one price version and the same tokens costs the same. -/
theorem Costed.unique {prices : Table PriceRow} {u v : UsageRow} (hu : Costed prices u) (hv : Costed prices v)
    (ok : u.status = "succeeded") (ok' : v.status = "succeeded") (model : u.modelId = v.modelId)
    (version : u.priceVersion = v.priceVersion) (input : u.inputTokens = v.inputTokens)
    (output : u.outputTokens = v.outputTokens) : u.costMicrounits = v.costMicrounits := by
  have free (m : Model) {c : Int} (h : usageCostMicrounits m 0 0 = .ok c) : c = 0 := by
    obtain ⟨-, -, -, -, -, rfl⟩ := cost_ok.1 h
    simp
  rcases hu ok with ⟨zi, zo, zc⟩ | ⟨p, hp, cost⟩ <;> rcases hv ok' with ⟨zi', zo', zc'⟩ | ⟨q, hq, cost'⟩
  · rw [zc, zc']
  · rw [← input, ← output, zi, zo] at cost'
    rw [zc, free _ cost']
  · rw [input, output, zi', zo'] at cost
    rw [zc', free _ cost]
  · rw [model, version, hq] at hp
    cases hp
    rw [input, output, cost'] at cost
    exact (Except.ok.inj cost).symm

/-- In every run a price version keeps its one definition, the catalog names stored versions, a model is
replaced only at the revision its writer read, and both protocols charge what the version says. -/
theorem Op.runAll_prices (digests : Digests) (before ops : List Op) :
    let db := Op.runAll digests before Db.empty
    let db' := Op.runAll digests ops db
    (∀ version p, db.books.prices.get? version = some p → db'.books.prices.get? version = some p) ∧
    (∀ row ∈ db'.books.catalog, row.definition.id = row.id ∧
      ∃ p, db'.books.prices.get? (row.id, row.definition.priceVersion) = some p ∧ p.definition = row.definition) ∧
    (∀ id request, (∃ row db'', Tx.commit (Xscope.putModel id request) db' = (.ok row, db'') ∧
      Expected db' id request.expectedRevision ∧
        row = ⟨id, request.expectedRevision + 1, request.enabled, request.defaultPool, request.model⟩ ∧
        db''.books.catalog.get? id = some row) ∨
      ∃ e, Tx.commit (Xscope.putModel id request) db' = (.error e, db')) ∧
    (∀ r ∈ db.books.reservations, historicalPrice r.spec.modelId r.spec.priceVersion db' = .ok (r.price, db')) ∧
    (∀ r ∈ db.books.reservations, ∀ e cost db'', e.status = "succeeded" → e.modelId = r.spec.modelId →
      e.priceVersion = r.spec.priceVersion → priceUsage e db' = .ok (cost, db'') →
      usageCostMicrounits r.price e.inputTokens e.outputTokens = .ok cost) ∧
    ∀ u ∈ db'.books.usageEvents, ∀ v ∈ db'.books.usageEvents, u.status = "succeeded" → v.status = "succeeded" →
      u.modelId = v.modelId →
      u.priceVersion = v.priceVersion → u.inputTokens = v.inputTokens → u.outputTokens = v.outputTokens →
      u.costMicrounits = v.costMicrounits := by
  intro db db'
  have h : db.Priced := Op.runAll_priced digests before .empty
  have h' : db'.Priced := Op.runAll_priced digests ops h
  have grows : db.books.prices.Grows db'.books.prices := (Op.runAll_repriced digests ops db).prices
  refine ⟨grows, h'.versioned.entry, fun id request => ?_, fun r hr => ((h.priced.frozen r hr).grows grows).historical,
    fun r hr e cost db'' ok model version hp => ?_, fun u hu v hv => (h'.priced.costed u hu).unique
      (h'.priced.costed v hv)⟩
  · rcases Tx.commit_cases (Xscope.putModel id request) db' with ⟨row, s, hx, hc⟩ | ⟨e, -, hc⟩
    · obtain ⟨cas, stored, -, found⟩ := putModel_inv hx
      exact .inl ⟨row, s, hc, cas, stored, found⟩
    · exact .inr ⟨e, hc⟩
  · obtain ⟨-, p, found, same⟩ := (h.priced.frozen r hr).grows grows
    rcases (show Costed _ (recordedUsage 0 e cost) from priceUsage_costed hp) ok with ⟨zi, zo, zc⟩ | ⟨q, hq, cost'⟩
    · rw [show e.inputTokens = 0 from zi, show e.outputTokens = 0 from zo, show cost = 0 from zc]
      refine cost_ok.2 ⟨le_rfl, le_rfl, ?_, ?_, fits_zero, by simp⟩ <;> rw [zero_mul] <;> exact fits_zero
    · have key : (e.modelId, e.priceVersion) = (r.spec.modelId, r.spec.priceVersion) := by rw [model, version]
      change db'.books.prices.get? (e.modelId, e.priceVersion) = some q at hq
      rw [key, found] at hq
      cases hq
      rw [← same]
      exact cost'

end Xscope

/-
What every money operation keeps. A preorder on databases that holds across every write of a table
outside the registry (projects, keys and the catalog) and across every appended event holds across
every operation that leaves the registry alone. Each transaction is an instance built from the
instances of its parts.
-/
import Xscope.Billing.Op

namespace Xscope

-- the instance of a transaction is as large as the transaction
set_option synthInstance.maxSize 20000

/-! ## Transactions that keep a relation -/

/-- A slot whose table can be replaced. -/
class Slot.Kept {ρ κ : Type} [Keyed ρ κ] (slot : Slot ρ) (R : Db → Db → Prop) : Prop where
  set : ∀ t db, R db (slot.set t db)

/-- A preorder that every write keeps which is neither to the registry nor to the sources of events. -/
class Quiet (R : Db → Db → Prop) : Prop extends IsPreorder Db R where
  accounts : Slot.accounts.Kept R
  usageEvents : Slot.usageEvents.Kept R
  orders : Slot.orders.Kept R
  payments : Slot.payments.Kept R
  refunds : Slot.refunds.Kept R
  checkouts : Slot.checkouts.Kept R
  receipts : Slot.receipts.Kept R
  reviewAudits : Slot.reviewAudits.Kept R
  balances : Slot.balances.Kept R
  keyHolds : Slot.keyHolds.Kept R
  monthSpends : Slot.monthSpends.Kept R

/-- A preorder that every write outside the registry keeps. -/
class Frame (R : Db → Db → Prop) : Prop extends Quiet R where
  reservations : Slot.reservations.Kept R
  transactions : Slot.transactions.Kept R
  entries : Slot.entries.Kept R
  reviews : Slot.reviews.Kept R
  appendEvent : ∀ call account kind aggregate payload, Tx.Within R (appendEvent call account kind aggregate payload)

/-- A transaction that keeps a relation. -/
class Keeping {α : Type} (R : Db → Db → Prop) (x : DbTx α) : Prop where
  within : Tx.Within R x

variable {R : Db → Db → Prop}

section Instances

instance [Frame R] : Slot.reservations.Kept R := Frame.reservations
instance [Frame R] : Slot.transactions.Kept R := Frame.transactions
instance [Frame R] : Slot.entries.Kept R := Frame.entries
instance [Frame R] : Slot.reviews.Kept R := Frame.reviews

instance [Frame R] {call : Call} {account kind aggregate : String} {payload : EventPayload} :
    Keeping R (appendEvent call account kind aggregate payload) :=
  ⟨Frame.appendEvent call account kind aggregate payload⟩

variable [Quiet R]

instance : Slot.accounts.Kept R := Quiet.accounts
instance : Slot.usageEvents.Kept R := Quiet.usageEvents
instance : Slot.orders.Kept R := Quiet.orders
instance : Slot.payments.Kept R := Quiet.payments
instance : Slot.refunds.Kept R := Quiet.refunds
instance : Slot.checkouts.Kept R := Quiet.checkouts
instance : Slot.receipts.Kept R := Quiet.receipts
instance : Slot.reviewAudits.Kept R := Quiet.reviewAudits
instance : Slot.balances.Kept R := Quiet.balances
instance : Slot.keyHolds.Kept R := Quiet.keyHolds
instance : Slot.monthSpends.Kept R := Quiet.monthSpends

variable {α β : Type}

theorem Keeping.bind {x : DbTx α} {f : α → DbTx β} (hx : Keeping R x)
    (hf : ∀ a, Keeping R (f a)) : Keeping R (x >>= f) :=
  ⟨Tx.within_bind hx.within fun a => (hf a).within⟩

instance {x : DbTx α} {f : α → DbTx β} [hx : Keeping R x]
    [hf : ∀ a, Keeping R (f a)] : Keeping R (x >>= f) := hx.bind hf

instance {a : α} : Keeping R (pure a : DbTx α) := ⟨Tx.within_pure a⟩

instance {g : Db → α} : Keeping R (Tx.read g : DbTx α) := ⟨Tx.within_read g⟩

instance {e : ServiceError} : Keeping R (Tx.fail e : DbTx α) := ⟨Tx.within_fail e⟩

instance {c : Prop} [Decidable c] {e : ServiceError} : Keeping R (Tx.reject c e : DbTx Unit) := ⟨Tx.within_reject c e⟩

instance {o : Option α} {e : ServiceError} : Keeping R (Tx.expect o e : DbTx α) := ⟨Tx.within_expect o e⟩

instance {c : Prop} [Decidable c] {x y : DbTx α} [hx : Keeping R x] [hy : Keeping R y] :
    Keeping R (if c then x else y) :=
  ⟨Tx.within_ite (fun _ => hx.within) fun _ => hy.within⟩

section Rows

variable {ρ κ : Type} [Keyed ρ κ] [DecidableEq κ]

instance {slot : Slot ρ} {k : κ} : Keeping R (findById slot k) := ⟨Tx.within_read _⟩

omit [DecidableEq κ] in
instance {slot : Slot ρ} {p : ρ → Bool} : Keeping R (findWhere slot p) := ⟨Tx.within_read _⟩

omit [Quiet R] in
instance {slot : Slot ρ} [h : slot.Kept R] {row : ρ} {e : ServiceError} : Keeping R (insertRow slot row e) := by
  refine ⟨fun db _ db' hx => ?_⟩
  obtain ⟨-, t, -, he⟩ := insertRow_ok.1 hx
  cases he
  exact h.set t db

omit [Quiet R] in
instance {slot : Slot ρ} [h : slot.Kept R] {row : ρ} : Keeping R (updateRow slot row) :=
  ⟨Tx.within_write fun db => h.set _ db⟩

end Rows

instance {f : Books → Int} : Keeping R (total f) := by
  refine ⟨fun db _ db' hx => ?_⟩
  obtain ⟨-, he⟩ := total_ok.1 hx
  cases he
  exact refl_of R db

end Instances

/-! ## The counters and the ledger -/

section Ledger

variable [Quiet R] {id key project : String} {call : Call} {a : BillingAccount}

instance : Keeping R (lockAccount project) := by unfold lockAccount; infer_instance

instance {v : Int} : Keeping R (checkNonneg v) := by unfold checkNonneg; infer_instance

instance : Keeping R (historicalBalanceAndHeld id) := by unfold historicalBalanceAndHeld; infer_instance

instance : Keeping R (historicalKeyHold id) := by unfold historicalKeyHold; infer_instance

instance {period : Int} : Keeping R (historicalSpend id period) := by unfold historicalSpend; infer_instance

instance {v d : Int} {n : Bool} : Keeping R (add v d n) := by unfold add; infer_instance

instance : Keeping R (account id) := by
  unfold account
  refine .bind inferInstance fun o => ?_
  split <;> infer_instance

instance : Keeping R (keyHold id) := by
  unfold keyHold
  refine .bind inferInstance fun o => ?_
  split <;> infer_instance

instance {period : Int} : Keeping R (monthly id period) := by
  unfold monthly
  refine .bind inferInstance fun o => ?_
  split <;> infer_instance

instance : Keeping R (balanceAndHeld id) := by unfold balanceAndHeld; infer_instance

instance {delta : Int} : Keeping R (changeHold id key delta) := by unfold changeHold; infer_instance

instance {delta : Int} : Keeping R (changeBalance id delta) := by unfold changeBalance; infer_instance

instance {row : BillingMonthSpend} {delta : Int} : Keeping R (changeSpend row delta) := by
  unfold changeSpend; infer_instance

instance {p : Project} : Keeping R (createBillingAccount p) := by unfold createBillingAccount; infer_instance

instance : Keeping R (ensureAccountForProject project) := by
  unfold ensureAccountForProject
  refine .bind inferInstance fun o => ?_
  split <;> infer_instance

instance {delta : Int} : Keeping R (guardDebit a delta) := by unfold guardDebit; infer_instance

end Ledger

/-! ## Records -/

section Records

variable [Quiet R] {id : String} {now : Int}

instance {α : Type} {e : Except DomainError α} : Keeping R (checkDomain e) := by
  unfold checkDomain
  split <;> infer_instance

instance {e : Except ServiceError Unit} : Keeping R (checkRequest e) := by
  unfold checkRequest
  split <;> infer_instance

instance [Slot.projects.Kept R] {value : Project} : Keeping R (createProject value) := by
  unfold createProject; infer_instance

instance : Keeping R (activeModel id) := by unfold activeModel; infer_instance

instance {version : String} : Keeping R (historicalPrice id version) := by unfold historicalPrice; infer_instance

instance [catalog : Slot.catalog.Kept R] [prices : Slot.prices.Kept R] : Keeping R bootstrapCatalog :=
  ⟨Tx.within_bind (Tx.within_write fun _ => catalog.set _ _) fun _ => Tx.within_write fun _ => prices.set _ _⟩

instance [Slot.catalog.Kept R] {row : CatalogRow} {expected : Int} : Keeping R (storeModel row expected) := by
  unfold storeModel; infer_instance

instance [Slot.prices.Kept R] {model : Model} : Keeping R (storePrice id model) := by
  unfold storePrice
  refine .bind inferInstance fun o => ?_
  split <;> infer_instance

instance [Slot.catalog.Kept R] [Slot.prices.Kept R] {request : PutModel} : Keeping R (putModel id request) := by
  unfold putModel
  split <;> infer_instance

instance [Slot.apiKeys.Kept R] {request : ApiKeyRequest} : Keeping R (storeApiKey now request) := by
  unfold storeApiKey; infer_instance

theorem requireModels_keeping : ∀ ms, Keeping R (requireModels ms)
  | [] => by unfold requireModels; infer_instance
  | _ :: ms => by
    have := requireModels_keeping ms
    unfold requireModels; infer_instance

instance {ms : List String} : Keeping R (requireModels ms) := requireModels_keeping ms

instance [Slot.apiKeys.Kept R] {request : ApiKeyRequest} : Keeping R (issueApiKey now request) := by
  unfold issueApiKey
  dsimp only
  infer_instance

instance [Slot.apiKeys.Kept R] : Keeping R (revokeApiKey now id) := by unfold revokeApiKey; infer_instance

instance {request : CreateOrderRequest} : Keeping R (createOrder request) := by unfold createOrder; infer_instance

instance {minor : Int} : Keeping R (checkProviderAmount minor) := by unfold checkProviderAmount; infer_instance

instance {provider : Alipay} : Keeping R (alipayCheckoutOpen id provider) := by
  unfold alipayCheckoutOpen
  repeat refine .bind inferInstance fun _ => ?_
  split <;> infer_instance

instance {qr : String} : Keeping R (alipayCheckoutStore id qr) := by unfold alipayCheckoutStore; infer_instance

end Records

/-! ## Money -/

/-- A preorder that the two writers of the ledger keep as well. -/
class Ledgered (R : Db → Db → Prop) : Prop extends Quiet R where
  posted : ∀ call a p, Keeping R (insertBalancedEntries call a p)
  cleared : ∀ call a o row, Keeping R (clearPendingRefund call a o row)

instance [Frame R] : Ledgered R where
  posted call a p := by unfold insertBalancedEntries; infer_instance
  cleared call a o row := by unfold clearPendingRefund; infer_instance

section Money

variable {digests : Digests} {id project actor subject key : String} {call : Call} {a : BillingAccount}
    {row : Reservation}

section Reads

variable [Quiet R]

instance : Keeping R (findReservation project id) := by unfold findReservation; infer_instance

instance {amount : Int} : Keeping R (admitBalance a amount) := by unfold admitBalance; infer_instance

instance {k : ApiKey} {now amount : Int} : Keeping R (admitBudget k now amount) := by unfold admitBudget; infer_instance

instance {review : BillingReview} {n : Nat} {details : AuditDetails} :
    Keeping R (appendAudit review n actor subject details) := by
  unfold appendAudit; infer_instance

instance {e : UsageEvent} : Keeping R (priceUsage e) := by unfold priceUsage; infer_instance

instance : Keeping R (readBalance project a) := by
  unfold readBalance
  refine .bind inferInstance fun o => ?_
  split <;> infer_instance

instance {now : Int} : Keeping R (projectedSpend project key now) := by
  unfold projectedSpend
  refine .bind inferInstance fun o => ?_
  split <;> infer_instance

instance {request : CheckRequest} {booked held keyHeld spent : Int} :
    Keeping R (rebuildCounters a request booked held keyHeld spent) := by
  unfold rebuildCounters; infer_instance

instance {provider : Alipay} {o : BillingOrder} {t : VerifiedTrade} :
    Keeping R (storeReceipt digests provider o t) := by
  unfold storeReceipt
  refine .bind inferInstance fun o => ?_
  split <;> infer_instance

instance {o : BillingOrder} {c : PaymentCheckout} {t : VerifiedTrade} : Keeping R (noteUnpaid o c t) := by
  unfold noteUnpaid; infer_instance

end Reads

section Ledger

variable [Ledgered R]

instance {p : Posting} : Keeping R (insertBalancedEntries call a p) := Ledgered.posted call a p

instance {o : BillingOrder} {row : Refund} : Keeping R (clearPendingRefund call a o row) :=
  Ledgered.cleared call a o row

instance {amount : Int} {p : Posting} : Keeping R (postCharge call a amount p) := by unfold postCharge; infer_instance

instance {e : UsageEvent} {cost : Int} : Keeping R (storeUsage call a e cost) := by
  unfold storeUsage
  refine .bind inferInstance fun _ => .bind inferInstance fun _ => .bind inferInstance fun _ =>
    .bind inferInstance fun _ =>
    .bind inferInstance fun o => ?_
  split <;> infer_instance

instance {request : CapturePaymentRequest} : Keeping R (capturePayment call id request key) := by
  unfold capturePayment
  refine .bind inferInstance fun _ => .bind inferInstance fun o => ?_
  split <;> infer_instance

instance {o : BillingOrder} {c : PaymentCheckout} {t : VerifiedTrade} : Keeping R (creditTrade call o c t id) := by
  unfold creditTrade
  refine .bind inferInstance fun o => ?_
  split <;> infer_instance

instance {provider : Alipay} {t : VerifiedTrade} : Keeping R (acceptAlipayTrade digests call provider t) := by
  unfold acceptAlipayTrade; infer_instance

instance {request : CreateRefundRequest} : Keeping R (createRefund call request key) := by
  unfold createRefund
  refine .bind inferInstance fun _ => .bind inferInstance fun _ => .bind inferInstance fun o => ?_
  split <;> infer_instance

instance {request : CreateRefundRequest} {provider : Alipay} :
    Keeping R (prepareAlipayRefund call request provider) := by
  unfold prepareAlipayRefund
  repeat refine .bind inferInstance fun _ => ?_
  split <;> infer_instance

instance {provider : Alipay} {proof : VerifiedRefund} :
    Keeping R (completeAlipayRefund digests call provider proof) := by
  unfold completeAlipayRefund; infer_instance

end Ledger

variable [Frame R]

instance {request : UnresolvedRequest} : Keeping R (unresolvedMoney call project id request) := by
  unfold unresolvedMoney
  refine .bind inferInstance fun _ => .bind inferInstance fun _ => .bind inferInstance fun row => ?_
  split
  · infer_instance
  · refine .bind inferInstance fun _ => ?_
    split <;> infer_instance

instance {request : ReserveRequest} : Keeping R (admitReservation call a request) := by
  unfold admitReservation; infer_instance

instance {request : ReserveRequest} : Keeping R (reserveMoney call request) := by
  unfold reserveMoney
  refine .bind inferInstance fun _ => .bind inferInstance fun _ => .bind inferInstance fun _ =>
    .bind inferInstance fun o => ?_
  split <;> infer_instance

instance : Keeping R (dispatchMoney call project id) := by unfold dispatchMoney; infer_instance

instance {request : ReleaseRequest} : Keeping R (releaseMoney call project id request) := by
  unfold releaseMoney; infer_instance

instance {request : SettleRequest} : Keeping R (settleLocked call a row request) := by
  unfold settleLocked; infer_instance

instance {request : SettleRequest} : Keeping R (settleMoney call project id request) := by
  unfold settleMoney; infer_instance

instance {submission : Submission} : Keeping R (submitReview digests call project id actor subject submission) := by
  unfold submitReview
  refine .bind inferInstance fun _ => .bind inferInstance fun o => ?_
  split <;> infer_instance

instance {request : EvidenceRequest} :
    Keeping R (submitBillingEvidence digests call project id actor subject request) := by
  unfold submitBillingEvidence; infer_instance

instance {request : WaiverRequest} : Keeping R (submitBillingWaiver digests call project id actor subject request) := by
  unfold submitBillingWaiver; infer_instance

instance {review : BillingReview} : Keeping R (waiveReservation call a row review actor) := by
  unfold waiveReservation; infer_instance

instance {review : BillingReview} : Keeping R (approveReview call a project review actor) := by
  unfold approveReview
  refine .bind inferInstance fun held => ?_
  split <;> infer_instance

instance {review : BillingReview} {b : Bool} : Keeping R (applyDecision call a project review actor b) := by
  unfold applyDecision; infer_instance

instance {request : DecisionRequest} : Keeping R (decideBillingReview call project id actor subject request) := by
  unfold decideBillingReview; infer_instance

instance {request : CheckRequest} {rebuild : Bool} : Keeping R (projectionCheck call project request rebuild) := by
  unfold projectionCheck; infer_instance

end Money

/-! ## Operations -/

section Sessions

theorem Keeping.commit [IsPreorder Db R] {α : Type} (x : DbTx α) [h : Keeping R x]
    (db : Db) : R db (Tx.commit x db).2 := by
  rcases Tx.commit_cases x db with ⟨a, s, hx, hc⟩ | ⟨e, -, hc⟩
  · rw [hc]; exact h.within db a s hx
  · rw [hc]; exact refl_of R db

/-- What two sessions keep, they keep one after the other. -/
theorem Keeping.session [IsPreorder Db R] {α β : Type} {x : DbSession α} {f : α → DbSession β}
    (hx : ∀ db, R db (x db).2) (hf : ∀ a db, R db (f a db).2) (db : Db) : R db ((x >>= f) db).2 := by
  cases h : x db with
  | mk o s =>
    have first := hx db
    rw [h] at first
    cases o with
    | ok a => rw [Session.bind_of_ok h]; exact trans_of R first (hf a s)
    | error e => rw [Session.bind_of_error h]; exact first

theorem projectBalance_keeps [Quiet R] (project : String) (db : Db) : R db (projectBalance project db).2 :=
  Keeping.session (Keeping.commit _) (fun _ => Keeping.commit _) db

theorem updateBalancePolicy_keeps [Quiet R] (project : String) (flag : Bool) (db : Db) :
    R db (updateBalancePolicy project flag db).2 :=
  Keeping.session (Keeping.commit _) (fun _ => Keeping.session (Keeping.commit _) fun _ =>
    projectBalance_keeps project) db

theorem storeOnce_keeps [Ledgered R] (call : Call) (a : BillingAccount) (e : UsageEvent) (cost : Int) (db : Db) :
    R db (storeOnce call a e cost db).2 := by
  unfold storeOnce
  cases hs : storeUsage call a e cost db with
  | error err => exact refl_of R db
  | ok r =>
    obtain ⟨_ | ⟨⟩, s⟩ := r
    · exact refl_of R db
    · exact Keeping.within db _ s hs

theorem recordUsage_keeps [Ledgered R] (call : Call) (e : UsageEvent) (db : Db) : R db (recordUsage call e db).2 :=
  Keeping.session (Keeping.commit _) (fun _ => Keeping.session (Keeping.commit _) fun _ =>
    storeOnce_keeps call _ e _) db

end Sessions

/-- The operations that write projects, keys or the catalog. -/
def Op.registers : Op → Bool
  | .createProject .. | .bootstrapCatalog | .putModel .. | .issueApiKey .. | .storeApiKey .. | .revokeApiKey .. => true
  | _ => false

/-- An operation keeps the relation if it leaves the registry alone, or keeps it there as well. -/
theorem Op.keeps [Frame R] (digests : Digests) (op : Op) (db : Db)
    (registry : op.registers = true → R db (op.run digests db)) :
    R db (op.run digests db) := by
  cases op with
  | createProject value => exact registry rfl
  | bootstrapCatalog => exact registry rfl
  | putModel id request => exact registry rfl
  | issueApiKey now request => exact registry rfl
  | storeApiKey now request => exact registry rfl
  | revokeApiKey now id => exact registry rfl
  | projectBalance project => exact projectBalance_keeps project db
  | updateBalancePolicy project flag => exact updateBalancePolicy_keeps project flag db
  | recordUsage call event => exact recordUsage_keeps call event db
  | _ => exact Keeping.commit _ db

/-- A relation that projects and keys do not bear on is kept if the writers of the catalog keep it. -/
theorem Op.keeps_catalog [Frame R] [Slot.projects.Kept R] [Slot.apiKeys.Kept R] (digests : Digests) (op : Op) (db : Db)
    (bootstrap : R db (Tx.commit Xscope.bootstrapCatalog db).2)
    (put : ∀ id request, R db (Tx.commit (Xscope.putModel id request) db).2) : R db (op.run digests db) := by
  refine op.keeps digests db fun registry => ?_
  cases op with
  | bootstrapCatalog => exact bootstrap
  | putModel id request => exact put id request
  | createProject value => exact Keeping.commit _ db
  | issueApiKey now request => exact Keeping.commit _ db
  | storeApiKey now request => exact Keeping.commit _ db
  | revokeApiKey now id => exact Keeping.commit _ db
  | _ => cases registry

end Xscope

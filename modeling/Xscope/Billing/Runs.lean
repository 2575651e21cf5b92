/-
Runs of the money operations from the empty database. Each operation is a step of its own kinds
of moves; over a run the invariant of the database holds throughout, so every counter that exists
shows the sums over the books.
-/
import Xscope.Billing.Op
import Xscope.Payments.Steps

namespace Xscope

variable (digests : Digests)

/-- The kinds of moves an operation can make. -/
def Op.kinds : Op → List Kind
  | .updateBalancePolicy .. => [.registry, .policy]
  | .reserve call _ => [.reserve call.now]
  | .dispatch .. => [.dispatch]
  | .release .. => [.release]
  | .settle call .. => [.settle call.now]
  | .unresolved .. => [.report]
  | .submitEvidence .. | .submitWaiver .. => [.review]
  | .decideReview call .. => [.settle call.now, .waive, .review]
  | .recordUsage _ event => [.registry, .usage event]
  | .capturePayment .. => [.registry, .topUp]
  | .acceptTrade .. => [.registry, .topUp]
  | .createRefund .. => [.registry, .refund]
  | .prepareRefund .. => [.prepare]
  | .completeRefund .. => [.registry, .complete]
  | _ => [.registry]

theorem Op.step (op : Op) {db : Db} (g : Good db.books db.projections) :
    Step op.kinds db.books db.projections (op.run digests db).books (op.run digests db).projections := by
  cases op with
  | createProject value => exact .commit g fun _ h => createProject_step g h
  | bootstrapCatalog => exact .commit g fun _ h => bootstrapCatalog_step g h
  | putModel id request => exact .commit g fun _ h => putModel_step g h
  | issueApiKey now request => exact .commit g fun _ h => issueApiKey_step g h
  | storeApiKey now request => exact .commit g fun _ h => storeApiKey_step g h
  | revokeApiKey now id => exact .commit g fun _ h => revokeApiKey_step g h
  | ensureAccount project => exact .commit g fun _ h => (ensureAccountForProject_step g h).1
  | projectBalance project => exact projectBalance_step g
  | updateBalancePolicy project flag => exact updateBalancePolicy_step g
  | projectedSpend project key now => exact .commit g fun _ h => projectedSpend_step g h
  | projectionCheck call project request rebuild => exact .commit g fun _ h => projectionCheck_step g h
  | createOrder request => exact .commit g fun _ h => createOrder_step g h
  | alipayCheckoutOpen id provider => exact .commit g fun _ h => alipayCheckoutOpen_step g h
  | alipayCheckoutStore id qr => exact .commit g fun _ h => alipayCheckoutStore_step g h
  | reserve call request => exact .commit g fun _ h => (reserveMoney_step g h).1
  | dispatch call project id => exact .commit g fun _ h => (dispatchMoney_step g h).1
  | release call project id request => exact .commit g fun _ h => (releaseMoney_step g h).1
  | settle call project id request => exact .commit g fun _ h => (settleMoney_step g h).1
  | unresolved call project id request => exact .commit g fun _ h => (unresolvedMoney_step g h).1
  | submitEvidence call project reservationId actor subject request =>
    refine .commit g fun _ h => ?_
    unfold submitBillingEvidence at h
    exact submitReview_step g (checkRequest_bind.1 h).2
  | submitWaiver call project reservationId actor subject request =>
    refine .commit g fun _ h => ?_
    unfold submitBillingWaiver at h
    exact submitReview_step g (checkRequest_bind.1 h).2
  | decideReview call project id actor subject request => exact .commit g fun _ h => decideBillingReview_step g h
  | recordUsage call event => exact recordUsage_step g
  | capturePayment call orderId request key => exact .commit g fun _ h => capturePayment_step g h
  | createRefund call request key => exact .commit g fun _ h => createRefund_step g h
  | acceptTrade call provider trade => exact .commit g fun _ h => acceptAlipayTrade_step g h
  | prepareRefund call request provider => exact .commit g fun _ h => (prepareAlipayRefund_step g h).1
  | completeRefund call provider proof => exact .commit g fun _ h => (completeAlipayRefund_step g h).1

/-! ## The empty database -/

theorem Good.empty : Good Db.empty.books Db.empty.projections := by
  refine ⟨⟨fun a ha => ?_, fun r hr => ?_⟩, ⟨fun x hx => ?_, fun x hx => ?_, fun x hx => ?_⟩,
    ⟨fun r hr => ?_, fun u hu => ?_⟩⟩
  · exact absurd ha (Table.not_mem_empty a)
  · exact absurd hr (Table.not_mem_empty r)
  · exact absurd hx (Table.not_mem_empty x)
  · exact absurd hx (Table.not_mem_empty x)
  · exact absurd hx (Table.not_mem_empty x)
  · exact absurd hr (Table.not_mem_empty r)
  · exact absurd hu (Table.not_mem_empty u)

/-! ## Runs -/

theorem Op.runAll_append (ops ops' : List Op) (db : Db) :
    Op.runAll digests (ops ++ ops') db = Op.runAll digests ops' (Op.runAll digests ops db) :=
  List.foldl_append

theorem Op.runAll_concat (ops : List Op) (op : Op) (db : Db) :
    Op.runAll digests (ops ++ [op]) db = op.run digests (Op.runAll digests ops db) :=
  Op.runAll_append digests ops [op] db

/-- A run of operations is a step of the kinds its operations can make. -/
theorem Op.runAll_step (ks : List Kind) : ∀ (ops : List Op) {db : Db}, Good db.books db.projections →
    (∀ op ∈ ops, ∀ k ∈ op.kinds, k ∈ ks) →
    Step ks db.books db.projections (Op.runAll digests ops db).books (Op.runAll digests ops db).projections
  | [], _, g, _ => .refl ks g
  | op :: ops, db, g, hk => by
    have first := op.step digests g
    have rest := Op.runAll_step ks ops (first.good g) fun o ho => hk o (List.mem_cons_of_mem _ ho)
    exact (first.mono (hk op List.mem_cons_self)).trans rest

/-- The same without a bound on the kinds. -/
theorem Op.runAll_moves (ops : List Op) {db : Db} (g : Good db.books db.projections) :
    Step (ops.flatMap Op.kinds) db.books db.projections (Op.runAll digests ops db).books
      (Op.runAll digests ops db).projections :=
  Op.runAll_step digests _ ops g fun op ho _ hk => List.mem_flatMap.2 ⟨op, ho, hk⟩

theorem Op.runAll_good (ops : List Op) {db : Db} (g : Good db.books db.projections) :
    Good (Op.runAll digests ops db).books (Op.runAll digests ops db).projections :=
  (Op.runAll_moves digests ops g).good g

/-- Every counter that exists in a reachable database equals the sum over the books it stands for. -/
theorem Op.runAll_counters (ops : List Op) :
    let db := Op.runAll digests ops Db.empty
    (∀ row ∈ db.projections.balances, row.balanceMicrounits = db.books.balance row.billingAccountId ∧
      row.heldMicrounits = db.books.held row.billingAccountId) ∧
    (∀ row ∈ db.projections.keyHolds, row.heldMicrounits = db.books.keyHeld row.apiKeyId) ∧
    (∀ row ∈ db.projections.monthSpends, row.spentMicrounits = db.books.spent row.apiKeyId row.month ∧
      Calendar.firstOfMonth row.month = row.month) := by
  have shows := (Op.runAll_good digests ops Good.empty).shows
  refine ⟨fun row hr => ?_, fun row hr => ?_, fun row hr => ?_⟩
  · obtain ⟨eb, eh, -⟩ := shows.balances row hr
    exact ⟨eb, eh⟩
  · exact (shows.keyHolds row hr).1
  · obtain ⟨es, -, hm⟩ := shows.months row hr
    exact ⟨es, hm⟩

end Xscope

/-
The operations that touch money, as one type: every run of the control plane, as far as money is
concerned, is a sequence of these. An operation that fails leaves what its committed transactions
left.
-/
import Xscope.Billing.Review
import Xscope.Billing.Usage
import Xscope.Payments.Refund

namespace Xscope

inductive Op where
  | createProject (value : Project)
  | bootstrapCatalog
  | putModel (id : String) (request : PutModel)
  | issueApiKey (now : Int) (request : ApiKeyRequest)
  | storeApiKey (now : Int) (request : ApiKeyRequest)
  | revokeApiKey (now : Int) (id : String)
  | ensureAccount (project : String)
  | projectBalance (project : String)
  | updateBalancePolicy (project : String) (enforceBalance : Bool)
  | projectedSpend (project key : String) (now : Int)
  | projectionCheck (call : Call) (project : String) (request : CheckRequest) (rebuild : Bool)
  | createOrder (request : CreateOrderRequest)
  | alipayCheckoutOpen (id : String) (provider : Alipay)
  | alipayCheckoutStore (id qr : String)
  | reserve (call : Call) (request : ReserveRequest)
  | dispatch (call : Call) (project id : String)
  | release (call : Call) (project id : String) (request : ReleaseRequest)
  | settle (call : Call) (project id : String) (request : SettleRequest)
  | unresolved (call : Call) (project id : String) (request : UnresolvedRequest)
  | submitEvidence (call : Call) (project reservationId actor subject : String) (request : EvidenceRequest)
  | submitWaiver (call : Call) (project reservationId actor subject : String) (request : WaiverRequest)
  | decideReview (call : Call) (project id actor subject : String) (request : DecisionRequest)
  | recordUsage (call : Call) (event : UsageEvent)
  | capturePayment (call : Call) (orderId : String) (request : CapturePaymentRequest) (idempotencyKey : String)
  | createRefund (call : Call) (request : CreateRefundRequest) (idempotencyKey : String)
  | acceptTrade (call : Call) (provider : Alipay) (trade : VerifiedTrade)
  | prepareRefund (call : Call) (request : CreateRefundRequest) (provider : Alipay)
  | completeRefund (call : Call) (provider : Alipay) (proof : VerifiedRefund)

/-- The database after an operation, whether or not it succeeded. -/
def Op.run (digests : Digests) : Op → Db → Db
  | .createProject value, db => (Tx.commit (Xscope.createProject value) db).2
  | .bootstrapCatalog, db => (Tx.commit Xscope.bootstrapCatalog db).2
  | .putModel id request, db => (Tx.commit (Xscope.putModel id request) db).2
  | .issueApiKey now request, db => (Tx.commit (Xscope.issueApiKey now request) db).2
  | .storeApiKey now request, db => (Tx.commit (Xscope.storeApiKey now request.withDefaults) db).2
  | .revokeApiKey now id, db => (Tx.commit (Xscope.revokeApiKey now id) db).2
  | .ensureAccount project, db => (Tx.commit (ensureAccountForProject project) db).2
  | .projectBalance project, db => (Xscope.projectBalance project db).2
  | .updateBalancePolicy project flag, db => (Xscope.updateBalancePolicy project flag db).2
  | .projectedSpend project key now, db => (Tx.commit (Xscope.projectedSpend project key now) db).2
  | .projectionCheck call project request rebuild, db =>
    (Tx.commit (Xscope.projectionCheck call project request rebuild) db).2
  | .createOrder request, db => (Tx.commit (Xscope.createOrder request) db).2
  | .alipayCheckoutOpen id provider, db => (Tx.commit (Xscope.alipayCheckoutOpen id provider) db).2
  | .alipayCheckoutStore id qr, db => (Tx.commit (Xscope.alipayCheckoutStore id qr) db).2
  | .reserve call request, db => (Tx.commit (reserveMoney call request) db).2
  | .dispatch call project id, db => (Tx.commit (dispatchMoney call project id) db).2
  | .release call project id request, db => (Tx.commit (releaseMoney call project id request) db).2
  | .settle call project id request, db => (Tx.commit (settleMoney call project id request) db).2
  | .unresolved call project id request, db => (Tx.commit (unresolvedMoney call project id request) db).2
  | .submitEvidence call project reservationId actor subject request, db =>
    (Tx.commit (submitBillingEvidence digests call project reservationId actor subject request) db).2
  | .submitWaiver call project reservationId actor subject request, db =>
    (Tx.commit (submitBillingWaiver digests call project reservationId actor subject request) db).2
  | .decideReview call project id actor subject request, db =>
    (Tx.commit (decideBillingReview call project id actor subject request) db).2
  | .recordUsage call event, db => (Xscope.recordUsage call event db).2
  | .capturePayment call orderId request key, db => (Tx.commit (Xscope.capturePayment call orderId request key) db).2
  | .createRefund call request key, db => (Tx.commit (Xscope.createRefund call request key) db).2
  | .acceptTrade call provider trade, db => (Tx.commit (acceptAlipayTrade digests call provider trade) db).2
  | .prepareRefund call request provider, db => (Tx.commit (prepareAlipayRefund call request provider) db).2
  | .completeRefund call provider proof, db => (Tx.commit (completeAlipayRefund digests call provider proof) db).2

/-- The database after a sequence of operations. -/
def Op.runAll (digests : Digests) (ops : List Op) (db : Db) : Db := ops.foldl (fun db op => op.run digests db) db

/-- Usage recorded outside of any reservation. -/
def Op.recordsUsage : Op → Bool
  | .recordUsage .. => true
  | _ => false

/-! ## A sample history -/

/-- No operation of the sample reads a digest. -/
def sampleDigests : Digests := ⟨id, fun _ _ s => s.id, fun e => e.kind⟩

def sampleCall (n : Nat) : Call := ⟨1790000000000000 + n, "t" ++ toString n, "a" ++ toString n, "b" ++ toString n⟩

/-- A request of the built-in model for ten tokens in and ten out. -/
def sampleRequest (id : String) : ReserveRequest :=
  ⟨id, "tenant", "project", "key", "request-" ++ id, "xscope-demo", "revision", "2026-09-01", 10, 10⟩

def sampleUsage : SettleRequest := ⟨3, 4, 1, "endpoint", "local", "succeeded"⟩

/-- A project with a key and one minor unit of credit. -/
def sampleSetup : List Op :=
  [.createProject ⟨"project", "tenant", "Project"⟩, .bootstrapCatalog,
    .issueApiKey 0 ⟨"key", "tenant", "project", "Key", [], [], none, 0, 0, ⟨"", 0⟩⟩,
    .createOrder ⟨"order", "tenant", "project", ⟨"CNY", 1⟩, ""⟩,
    .capturePayment (sampleCall 1) "order" ⟨"payment", "manual", "reference"⟩ "capture"]

/-- The same project with its balance enforced. -/
def samplePrepaid : List Op := sampleSetup ++ [.updateBalancePolicy "project" true]

/-- One request, reserved, dispatched and settled. -/
def sampleRequestRun : List Op :=
  [.reserve (sampleCall 2) (sampleRequest "r1"), .dispatch (sampleCall 3) "project" "r1",
    .settle (sampleCall 4) "project" "r1" sampleUsage]

end Xscope

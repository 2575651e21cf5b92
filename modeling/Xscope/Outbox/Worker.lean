/-
The worker of the account events: account-scoped, leased consumption. There is no acknowledgement
unless the effects of the batch are stored in the same transaction, and every call reads the
database clock anew, so a lease may run out while a batch is being processed.
-/
import Xscope.Outbox.Append
import Mathlib.Data.List.Sort

namespace Xscope

variable (digests : Digests)

def microsPerSecond : Int := 1000000

structure ClaimRequest where
  limit : Nat
  leaseSeconds : Int

structure Lease where
  billingAccountId : String
  leaseEpoch : Int
  leaseToken : String
  expectedSequence : Int
  throughSequence : Int
  deriving DecidableEq

/-- The answer to a claim: a lease with the events it covers, or when to come back. -/
structure Claimed where
  lease : Option Lease
  data : List BillingEvent
  retryAfterMs : Nat

/-- Seconds to wait after the given number of attempts. -/
def backoff (attempt : Int) : Int := min (2 ^ (max 1 (min 8 attempt)).toNat) 300

/-- `saturating_add(1)` on the attempts of a job. -/
def nextAttempt (attempts : Int) : Int := min i32Max (attempts + 1)

/-- The state of a job after a failed attempt: the eighth attempt is the last. -/
def failedState (attempts : Int) : JobState := if 8 ≤ attempts then .dead else .pending

/-- The lease is the current one, has not run out, and covers events the job still needs. -/
def Lease.held (lease : Lease) (row : BillingJob) (now : Int) : Prop :=
  row.state = .running ∧ row.leaseEpoch = lease.leaseEpoch ∧ row.leaseToken = some lease.leaseToken ∧
    (∃ expiry ∈ row.leaseUntil, now < expiry) ∧ row.acknowledged = lease.expectedSequence ∧
    lease.expectedSequence < lease.throughSequence ∧ row.leaseThrough = lease.throughSequence ∧
    lease.throughSequence ≤ row.targetSequence

/-- The job of a lease, for its holder. -/
def locked (now : Int) (lease : Lease) : DbTx BillingJob := do
  let row ← findById Slot.jobs (lease.billingAccountId, consumer)
  let row ← Tx.expect row .notFound
  Tx.reject (row.state ≠ .running ∨ row.leaseEpoch ≠ lease.leaseEpoch ∨ row.leaseToken ≠ some lease.leaseToken ∨
      row.leaseUntil.all (fun expiry => decide (expiry ≤ now)) ∨ row.acknowledged ≠ lease.expectedSequence ∨
      lease.throughSequence ≤ lease.expectedSequence ∨ row.leaseThrough ≠ lease.throughSequence ∨
      row.targetSequence < lease.throughSequence)
    (.conflict "stale, expired, or mismatched worker lease")
  pure row

/-! ## Claiming -/

/-- A job that may be claimed: pending and due, or running past its lease. -/
def BillingJob.due (now : Int) (job : BillingJob) : Bool :=
  job.consumer == Xscope.consumer && decide (job.acknowledged < job.targetSequence) && decide (job.availableAt ≤ now) &&
    (job.state == .pending || (job.state == .running && job.leaseUntil.any fun expiry => decide (expiry ≤ now)))

/-- The order of the queue: by due time, then by account. -/
def BillingJob.before (a b : BillingJob) : Bool :=
  decide (a.availableAt < b.availableAt) ||
    (a.availableAt == b.availableAt && decide (a.billingAccountId ≤ b.billingAccountId))

/-- The first job of the queue. -/
def firstJob : List BillingJob → Option BillingJob
  | [] => none
  | job :: rest => match firstJob rest with
    | some other => some (if job.before other then job else other)
    | none => some job

/-- The events of an account after `low` up to `high`, in order. -/
def Outbox.batch (o : Outbox) (accountId : String) (low high : Int) : List BillingEvent :=
  (o.events.select fun e =>
    e.billingAccountId == accountId && decide (low < e.sequence) && decide (e.sequence ≤ high)).mergeSort
      fun a b => decide (a.sequence ≤ b.sequence)

/-- A crashed worker receives the same bounded retry policy as an explicit failure. -/
def crashedJob (now : Int) (row : BillingJob) : BillingJob :=
  { row with
    state := failedState (nextAttempt row.attempts), attempts := nextAttempt row.attempts
    lastError := some "worker_crashed", leaseToken := none, leaseUntil := none
    availableAt := now + backoff (nextAttempt row.attempts) * microsPerSecond }

def leasedJob (now leaseSeconds : Int) (row : BillingJob) (lease : Lease) : BillingJob :=
  { row with
    state := .running, leaseEpoch := lease.leaseEpoch, leaseThrough := lease.throughSequence
    leaseToken := some lease.leaseToken, leaseUntil := some (now + leaseSeconds * microsPerSecond) }

/-- The lease of a pending job over its next events. -/
def leaseJob (now : Int) (token : String) (request : ClaimRequest) (row : BillingJob) : DbTx Claimed := do
  let events ← Tx.read fun db =>
    (db.outbox.batch row.billingAccountId row.acknowledged row.targetSequence).take request.limit
  let last ← Tx.expect events.getLast? (.conflict "job high watermark has no committed source events")
  let epoch ← Tx.expect (checkedAdd row.leaseEpoch 1) (.invalid "lease epoch exhausted")
  let lease : Lease := ⟨row.billingAccountId, epoch, token, row.acknowledged, last.sequence⟩
  updateRow Slot.jobs (leasedJob now request.leaseSeconds row lease)
  pure ⟨some lease, events, 0⟩

/-- `claim_event_job`; the rows another transaction has locked are skipped. -/
def claimEventJob (now : Int) (token : String) (skipped : List String) (request : ClaimRequest) : DbTx Claimed := do
  Tx.reject (¬(1 ≤ request.limit ∧ request.limit ≤ 100) ∨ ¬(1 ≤ request.leaseSeconds ∧ request.leaseSeconds ≤ 60))
    (.invalid "invalid event batch or lease duration")
  let jobs ← selectWhere Slot.jobs fun job => job.due now && !skipped.contains job.billingAccountId
  match firstJob jobs with
  | none => pure ⟨none, [], 1000⟩
  | some row =>
    if row.state = .running then do
      updateRow Slot.jobs (crashedJob now row)
      pure ⟨none, [], 1000⟩
    else leaseJob now token request row

/-! ## Completing -/

/-- The source of an event is there and belongs to its account. -/
def validateEvent (event : BillingEvent) : DbTx Unit := do
  if event.kind = "ledger.posted" then do
    let rows ← selectWhere Slot.entries fun e => e.transactionId == event.aggregateId
    Tx.reject (rows.length < 2 ∨ 100 < rows.length ∨ rows.any (fun r => r.billingAccountId != event.billingAccountId) ∨
        (rows.map (·.amountMicrounits)).sum ≠ 0)
      (.conflict "ledger integrity verification failed")
  else if ["reservation.created", "reservation.dispatched", "reservation.released", "reservation.unresolved",
      "reservation.waived", "reservation.settled"].contains event.kind then do
    let reservation ← findById Slot.reservations event.aggregateId
    let reservation ← Tx.expect reservation (.conflict "reservation source missing")
    Tx.reject (reservation.billingAccountId ≠ event.billingAccountId) (.conflict "reservation source account mismatch")
  else if ["review.submitted", "review.settled", "review.rejected", "review.waived"].contains event.kind then do
    let review ← findById Slot.reviews event.aggregateId
    let review ← Tx.expect review (.conflict "review source missing")
    let reservation ← findById Slot.reservations review.reservationId
    let reservation ← Tx.expect reservation (.conflict "review reservation missing")
    Tx.reject (reservation.billingAccountId ≠ event.billingAccountId) (.conflict "review source account mismatch")
  else
    -- rebuild events are audit notifications, not financial postings
    Tx.reject (event.kind ≠ "projection.rebuilt") (.invalid "unsupported financial event kind; source retained")

/-- The effect of an event. -/
def effectOf (processedAt : Int) (event : BillingEvent) : BillingEffect :=
  { billingAccountId := event.billingAccountId, consumer := consumer, sequence := event.sequence, kind := event.kind
    payloadSha256 := digests.event event, processedAt := processedAt }

/-- Checks the events of a batch one after another, from the one after `expected`, and collects
the effects that are not stored yet. -/
def processEvents (prior : List BillingEffect) (processedAt : Int) :
    Int → List BillingEvent → DbTx (Int × List BillingEffect)
  | expected, [] => pure (expected, [])
  | expected, event :: rest => do
    let expected ← Tx.expect (checkedAdd expected 1) (.invalid "event sequence exhausted")
    Tx.reject (event.sequence ≠ expected) (.conflict "event source has a sequence gap")
    validateEvent event
    match prior.find? fun item => item.sequence == event.sequence with
    | some item => do
      Tx.reject (item.payloadSha256 ≠ digests.event event) (.conflict "processed event changed")
      processEvents prior processedAt expected rest
    | none => do
      let (last, effects) ← processEvents prior processedAt expected rest
      pure (last, effectOf digests processedAt event :: effects)

def insertEffects : List BillingEffect → DbTx Unit
  | [] => pure ()
  | effect :: rest => do
    insertRow Slot.effects effect .database
    insertEffects rest

def completedJob (now acknowledged : Int) (row : BillingJob) : BillingJob :=
  { row with
    acknowledged := acknowledged, state := if acknowledged < row.targetSequence then .pending else .idle
    leaseToken := none, leaseUntil := none, attempts := 0, lastError := none, availableAt := now }

/-- The readings of the database clock in one completion, in order. -/
structure Clock where
  locked : Int
  processed : Int
  final : Int

structure Completed where
  acknowledged : Int
  duplicate : Bool

/-- A completion for the holder of the lease. -/
def completeLeased (clock : Clock) (lease : Lease) : DbTx Completed := do
  let row ← locked clock.locked lease
  let events ← Tx.read fun db => (db.outbox.batch row.billingAccountId row.acknowledged lease.throughSequence).take 101
  Tx.reject (events = [] ∨ 100 < events.length) (.conflict "invalid worker batch")
  let prior ← selectWhere Slot.effects fun e =>
    e.billingAccountId == row.billingAccountId && e.consumer == consumer && decide (row.acknowledged < e.sequence) &&
      decide (e.sequence ≤ lease.throughSequence)
  let (expected, effects) ← processEvents digests prior clock.processed row.acknowledged events
  Tx.reject (expected ≠ lease.throughSequence) (.conflict "event source did not reach requested boundary")
  insertEffects effects
  -- fence again immediately before commit, including slow validation
  Tx.reject (row.leaseUntil.all fun expiry => decide (expiry ≤ clock.final))
    (.conflict "lease expired during processing")
  updateRow Slot.jobs (completedJob clock.final expected row)
  pure ⟨expected, false⟩

def completeEventJob (clock : Clock) (lease : Lease) : DbTx Completed := do
  let row ← findById Slot.jobs (lease.billingAccountId, consumer)
  let row ← Tx.expect row .notFound
  -- a lost completion response is acknowledged without repeating effects
  if lease.throughSequence ≤ row.acknowledged ∧ lease.expectedSequence < lease.throughSequence then
    pure ⟨row.acknowledged, true⟩
  else completeLeased digests clock lease

/-! ## Failing and retrying -/

def failedJob (now : Int) (reason : String) (row : BillingJob) : BillingJob :=
  { row with
    state := failedState (nextAttempt row.attempts), attempts := nextAttempt row.attempts, lastError := some reason
    leaseToken := none, leaseUntil := none
    availableAt := now + backoff (nextAttempt row.attempts) * microsPerSecond }

/-- `fail_event_job`, which reads the clock for the lease and again for the backoff. -/
def failEventJob (lockedAt now : Int) (lease : Lease) (reason : String) : DbTx BillingJob := do
  Tx.reject (["handler_failed", "source_invalid", "dependency_unavailable"].contains reason = false)
    (.invalid "invalid bounded failure code")
  let row ← locked lockedAt lease
  updateRow Slot.jobs (failedJob now reason row)
  pure (failedJob now reason row)

def retriedJob (now : Int) (row : BillingJob) : BillingJob :=
  { row with state := .pending, availableAt := now, attempts := 0 }

def retryEventJob (now : Int) (auditId accountId actor reason : String) : DbTx BillingJob := do
  Tx.reject (blank reason ∨ 256 < reason.utf8ByteSize) (.invalid "retry requires a bounded reason")
  let row ← findById Slot.jobs (accountId, consumer)
  let row ← Tx.expect row .notFound
  Tx.reject (row.state ≠ .dead) (.conflict "only dead jobs may be explicitly retried")
  updateRow Slot.jobs (retriedJob now row)
  insertRow Slot.audits ⟨auditId, actor, "event_job.retry", accountId, reason⟩ .database
  pure (retriedJob now row)

/-- Waiting grows from two seconds to the longest one. -/
example : (List.range 10).map (fun n => backoff n) = [2, 2, 4, 8, 16, 32, 64, 128, 256, 256] := by decide

end Xscope

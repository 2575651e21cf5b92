/-
Appending account events. The sequence of an account is allocated under its row lock, and the
job of the account is created, or moved to the new target and woken when it was idle.
-/
import Xscope.Store.Access

namespace Xscope

/-- The one consumer of account events. -/
def consumer : String := "ledger.audit.v1"

/-- The highest event sequence of an account. -/
def Outbox.lastSequence (o : Outbox) (accountId : String) : Option Int :=
  ((o.events.select fun e => e.billingAccountId == accountId).map (·.sequence)).max?

/-- The job as `INSERT … ON CONFLICT` leaves it: a new row, or the old one with the new target,
woken when idle. A failure backoff or a dead state is not cleared. -/
def scheduledJob (now : Int) (accountId : String) (sequence : Int) : Option BillingJob → BillingJob
  | none =>
    { billingAccountId := accountId, consumer := consumer, acknowledged := 0, targetSequence := sequence
      leaseEpoch := 0, leaseThrough := 0, leaseToken := none, leaseUntil := none, availableAt := now
      state := .pending, attempts := 0, lastError := none }
  | some job => { job with targetSequence := sequence, state := if job.state = .idle then .pending else job.state }

def schedule (now : Int) (accountId : String) (sequence : Int) : DbTx Unit := do
  let prior ← findById Slot.jobs (accountId, consumer)
  let job := scheduledJob now accountId sequence prior
  -- CHECK (acknowledged >= 0) and CHECK (target_sequence >= acknowledged)
  Tx.reject (job.acknowledged < 0 ∨ job.targetSequence < job.acknowledged) .database
  Tx.write (Db.setOutbox fun o => { o with jobs := o.jobs.upsert job })

/-- Appends one event of an account. The caller holds the lock of the account row. -/
def appendEvent (call : Call) (accountId kind aggregate : String) (payload : EventPayload) : DbTx Unit := do
  let prior ← Tx.read fun db => db.outbox.lastSequence accountId
  let sequence ← Tx.expect (checkedAdd (prior.getD 0) 1) (.invalid "event sequence exhausted")
  insertRow Slot.events
    { billingAccountId := accountId, sequence := sequence, kind := kind, aggregateId := aggregate
      payload := payload, createdAt := call.now } .database
  schedule call.now accountId sequence

/-! ## What an append does -/

/-- The database with another outbox. -/
def Db.withOutbox (db : Db) (o : Outbox) : Db := { db with outbox := o }

/-- The outbox after one append to an account: one new event, numbered after the last, and the
job moved to it. -/
structure Outbox.Appended (account : String) (o o' : Outbox) : Prop where
  append : ∃ event events job, event.billingAccountId = account ∧
    event.sequence = (o.lastSequence account).getD 0 + 1 ∧ Fits event.sequence ∧
    o.events.insert? event = some events ∧
    (∃ now, job = scheduledJob now account event.sequence (o.jobs.get? (account, consumer))) ∧
    0 ≤ job.acknowledged ∧ job.acknowledged ≤ job.targetSequence ∧
    o' = { o with events := events, jobs := o.jobs.upsert job }

theorem appendEvent_ok {call : Call} {account kind aggregate : String} {payload : EventPayload} {db : Db}
    {r : Unit × Db} (h : appendEvent call account kind aggregate payload db = .ok r) :
    ∃ o, r.2 = db.withOutbox o ∧ Outbox.Appended account db.outbox o := by
  unfold appendEvent schedule at h
  simp only [Tx.read_bind, Tx.expect_bind, insertRow_bind, findById_bind, Tx.reject_bind, Tx.write_ok, checkedAdd,
    checked_some, not_or, not_lt] at h
  obtain ⟨_, ⟨rfl, hfit⟩, -, events, hi, ⟨h0, h1⟩, rfl⟩ := h
  exact ⟨_, rfl, ⟨_, events, _, rfl, rfl, hfit, hi, ⟨_, rfl⟩, h0, h1, rfl⟩⟩

end Xscope

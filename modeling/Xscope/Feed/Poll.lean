/-
The event feed: consumers of an account poll its events and acknowledge them. A poll and an
acknowledgement read the cursor without a lock first, and only one that moves it reads it again
under the lock of its row; so the calls of many processes interleave between these statements.
-/
import Xscope.Outbox.Fencing

namespace Xscope

/-! ## Cursors -/

structure BillingConsumer where
  billingAccountId : String
  consumer : String
  acknowledged : Int
  delivered : Int
  deriving DecidableEq

instance : Keyed BillingConsumer (String × String) := ⟨fun r => (r.billingAccountId, r.consumer)⟩

/-- The cursor of a first poll. -/
def newConsumer (accountId name : String) : BillingConsumer := ⟨accountId, name, 0, 0⟩

structure AckRequest where
  expectedSequence : Int
  sequence : Int
  deriving DecidableEq

structure PollRequest where
  limit : Nat
  ack : Option AckRequest
  deriving DecidableEq

/-- What the cursor has acknowledged after an acknowledgement. -/
def acknowledged (row : BillingConsumer) : Option AckRequest → Except ServiceError Int
  | none => .ok row.acknowledged
  | some ack =>
    if ack.sequence < 0 ∨ ack.expectedSequence < 0 then .error (.invalid "invalid ACK")
    -- an exact duplicate stays idempotent even after its response was lost
    else if ack.sequence = row.acknowledged then .ok row.acknowledged
    else if ack.expectedSequence ≠ row.acknowledged ∨ ack.sequence < row.acknowledged ∨
      row.delivered < ack.sequence then
      .error (.conflict "stale ACK or acknowledging events that were not delivered")
    else .ok ack.sequence

/-! ## Pages -/

/-- The events of an account after `low`, in order. -/
def Outbox.eventsAfter (o : Outbox) (accountId : String) (low : Int) : List BillingEvent :=
  (o.events.select fun e => e.billingAccountId == accountId && decide (low < e.sequence)).mergeSort
    fun a b => decide (a.sequence ≤ b.sequence)

structure Page where
  events : List BillingEvent
  acknowledged : Int
  delivered : Int
  hasMore : Bool
  deriving DecidableEq

/-- The events after what is acknowledged, with the cursor that delivering them leaves. -/
def page (o : Outbox) (row : BillingConsumer) (request : PollRequest) : Except ServiceError Page := do
  let ack ← acknowledged row request.ack
  let found := (o.eventsAfter row.billingAccountId ack).take (request.limit + 1)
  let hasMore := decide (request.limit < found.length)
  let events := if hasMore then found.dropLast else found
  let delivered := (events.getLast?.map fun e => max row.delivered e.sequence).getD row.delivered
  pure ⟨events, ack, delivered, hasMore⟩

def Page.changed (p : Page) (row : BillingConsumer) : Bool :=
  p.acknowledged != row.acknowledged || p.delivered != row.delivered

structure PollResponse where
  retryAfterMs : Nat
  data : List BillingEvent
  acknowledged : Int
  delivered : Int
  hasMore : Bool
  deriving DecidableEq

def Page.response (p : Page) : PollResponse :=
  { retryAfterMs := if p.events.isEmpty then 1000 else 0, data := p.events, acknowledged := p.acknowledged
    delivered := p.delivered, hasMore := p.hasMore }

/-! ## Calls -/

/-- A call between two of its statements. -/
inductive Pending where
  | polled (row : BillingConsumer) (request : PollRequest)
  | locking (row : BillingConsumer) (request : PollRequest)
  | acking (row : BillingConsumer) (request : AckRequest)
  deriving DecidableEq

/-- How a call ended. -/
inductive Outcome where
  | polled (row : BillingConsumer) (response : PollResponse)
  | acked (row : BillingConsumer)
  | failed (error : ServiceError)
  deriving DecidableEq

/-- The database, the cursors, the calls of each process, and how earlier calls ended. -/
structure Feed where
  db : Db
  consumers : Table BillingConsumer
  calls : Nat → Option Pending
  done : List Outcome

namespace Feed

def empty : Feed := ⟨.empty, .empty, fun _ => none, []⟩

def setCall (feed : Feed) (process : Nat) (call : Option Pending) : Feed :=
  { feed with calls := fun p => if p = process then call else feed.calls p }

def finish (feed : Feed) (process : Nat) (outcome : Outcome) : Feed :=
  { feed.setCall process none with done := outcome :: feed.done }

def accountId (feed : Feed) (project : String) : Except ServiceError String :=
  match feed.db.books.accounts.find fun a => a.projectId == project with
  | some account => .ok account.id
  | none => .error .notFound

/-- The row a first poll inserted is visible from its commit on; a row that is there stays. -/
def register (feed : Feed) (row : BillingConsumer) : Feed :=
  { feed with consumers := (feed.consumers.insert? row).getD feed.consumers }

def update (feed : Feed) (row : BillingConsumer) : Feed := { feed with consumers := feed.consumers.put row }

/-- `poll_billing_events` up to its first reading of the cursor. -/
def poll (feed : Feed) (process : Nat) (project name : String) (request : PollRequest) : Feed :=
  if identifier name = false ∨ ¬(1 ≤ request.limit ∧ request.limit ≤ 100) then
    feed.finish process (.failed (.invalid "consumer or batch limit invalid"))
  else match feed.accountId project with
    | .error e => feed.finish process (.failed e)
    | .ok account =>
      let row := (feed.consumers.get? (account, name)).getD (newConsumer account name)
      feed.setCall process (some (.polled row request))

/-- `ack_billing_events` up to its first check. -/
def ack (feed : Feed) (process : Nat) (project name : String) (request : AckRequest) : Feed :=
  if identifier name = false then feed.finish process (.failed (.invalid "invalid consumer"))
  else match feed.accountId project with
    | .error e => feed.finish process (.failed e)
    | .ok account => match feed.consumers.get? (account, name) with
      | none => feed.finish process (.failed .notFound)
      | some row => match Xscope.acknowledged row (some request) with
        | .error e => feed.finish process (.failed e)
        | .ok next =>
          if next = row.acknowledged then feed.finish process (.acked row)
          else feed.setCall process (some (.acking row request))

/-- The optimistic page. One that moves nothing is answered without a lock. -/
def pageUnlocked (feed : Feed) (process : Nat) (row : BillingConsumer) (request : PollRequest) : Feed :=
  match page feed.db.outbox row request with
  | .error e => feed.finish process (.failed e)
  | .ok result =>
    if result.changed row = true then feed.setCall process (some (.locking row request))
    else (feed.register row).finish process (.polled row result.response)

/-- The cursor read again under its lock, the page it gives, and the update, committed together. -/
def pageLocked (feed : Feed) (process : Nat) (row : BillingConsumer) (request : PollRequest) : Feed :=
  let row := (feed.consumers.get? (key row)).getD row
  match page feed.db.outbox row request with
  | .error e => feed.finish process (.failed e)
  | .ok result =>
    let feed := feed.register row
    if result.changed row = true then
      let next := { row with acknowledged := result.acknowledged, delivered := result.delivered }
      (feed.update next).finish process (.polled next result.response)
    else feed.finish process (.polled row result.response)

/-- The acknowledgement checked again under the lock of the cursor. -/
def ackLocked (feed : Feed) (process : Nat) (row : BillingConsumer) (request : AckRequest) : Feed :=
  match feed.consumers.get? (key row) with
  | none => feed.finish process (.failed .notFound)
  | some row => match Xscope.acknowledged row (some request) with
    | .error e => feed.finish process (.failed e)
    | .ok next =>
      if next = row.acknowledged then feed.finish process (.acked row)
      else
        let row := { row with acknowledged := next }
        (feed.update row).finish process (.acked row)

/-- The next statement of a call. -/
def next (feed : Feed) (process : Nat) : Feed := match feed.calls process with
  | none => feed
  | some (.polled row request) => feed.pageUnlocked process row request
  | some (.locking row request) => feed.pageLocked process row request
  | some (.acking row request) => feed.ackLocked process row request

end Feed

/-! ## Runs -/

/-- A step of the system: the control plane writes, a process starts a call, or it goes on with it. -/
inductive FeedStep where
  | write (action : Action)
  | poll (process : Nat) (project name : String) (request : PollRequest)
  | ack (process : Nat) (project name : String) (request : AckRequest)
  | next (process : Nat)

def FeedStep.run (digests : Digests) : FeedStep → Feed → Feed
  | .write action, feed => { feed with db := action.run digests feed.db }
  | .poll process project name request, feed => feed.poll process project name request
  | .ack process project name request, feed => feed.ack process project name request
  | .next process, feed => feed.next process

def FeedStep.runAll (digests : Digests) (steps : List FeedStep) (feed : Feed) : Feed :=
  steps.foldl (fun feed step => step.run digests feed) feed

end Xscope

/-
The billing workers of the gateways and the requests they have on the way. A worker reserves,
dispatches and answers the caller; when the outcome is not clear, or nobody waits for it any more,
it recovers by reserving again and releasing what is still undispatched. A request that was sent can
reach the control plane at any later time, several times or never, and a worker may see any of its
answers or none.
-/
import Xscope.Billing.Op

namespace Xscope.Admission

/-- What the gateway makes of a response: the row, or the status of the refusal. -/
abbrev Answer := Except Nat Reservation

def decode : Except ServiceError Reservation → Answer
  | .ok row => .ok row
  | .error e => .error e.status

/-- What a worker asks of the control plane. A recovery asks for the reservation again. -/
inductive Message where
  | reserve
  | dispatch
  | recover
  | release
  deriving DecidableEq

/-- The part of the control plane that serves a message. -/
def Message.serve (call : Call) (intent : ReserveRequest) : Message → DbTx Reservation
  | .reserve | .recover => reserveMoney call intent
  | .dispatch => dispatchMoney call intent.projectId intent.id
  | .release => releaseMoney call intent.projectId intent.id ⟨"not_dispatched"⟩

def Message.reserves : Message → Bool
  | .reserve | .recover => true
  | _ => false

/-- The messages of a recovery. -/
def Message.recovers : Message → Bool
  | .recover | .release => true
  | _ => false

/-- A request that was sent, with every answer the control plane has given to it. -/
structure Sent where
  message : Message
  answers : List Answer

inductive Decision where
  | dispatched
  | rejected (status : Nat)
  | uncertain (status : Nat)

def Decision.ambiguous : Decision → Bool
  | .uncertain _ => true
  | _ => false

def Decision.result : Decision → Except Nat Unit
  | .dispatched => .ok ()
  | .rejected status | .uncertain status => .error status

/-- The end of the channel at the caller: it waits, it has given up, a result is there for it, or its
admission has returned that result. -/
inductive Reply where
  | waiting
  | gone
  | sent (result : Except Nat Unit)
  | returned (result : Except Nat Unit)

/-- Where the worker of a command stands; `waiting` is for an answer to the request it sent last. A
command that is finished has the result of its recovery, when it needed one. -/
inductive Phase where
  | queued
  | waiting
  | decided (decision : Decision)
  | finished (recovery : Option (Except Nat Unit))

/-- A command of the queue, with the requests of its worker, the last one first. -/
structure Command where
  intent : ReserveRequest
  reply : Reply
  phase : Phase
  sent : List Sent

namespace Command

def new (intent : ReserveRequest) : Command := ⟨intent, .waiting, .queued, []⟩

def closed (c : Command) : Bool := match c.reply with
  | .gone => true
  | _ => false

def send (c : Command) (message : Message) : Command :=
  { c with phase := .waiting, sent := ⟨message, []⟩ :: c.sent }

def decide (c : Command) (decision : Decision) : Command := { c with phase := .decided decision }

def finish (c : Command) (recovery : Option (Except Nat Unit)) : Command := { c with phase := .finished recovery }

/-- A worker takes the command from the queue. -/
def take (c : Command) (expired : Bool) : Command := match c.phase with
  | .queued => if c.closed || expired then c.finish none else c.send .reserve
  | _ => c

/-- The refusals that are read as proof that there is no hold. -/
def refuses (status : Nat) : Bool := [400, 402, 403, 404, 422].contains status

/-! ## The protocol of a worker -/

/-- Only a fresh live admission may dispatch. -/
def admitted (c : Command) (expired : Bool) : Answer → Command
  | .ok row =>
    if row.state ≠ .reserved then c.decide (.uncertain 503)
    else if c.closed || expired then c.decide (.uncertain 503)
    else c.send .dispatch
  | .error status => if refuses status then c.decide (.rejected status) else c.decide (.uncertain status)

def dispatched (c : Command) : Answer → Command
  | .ok row => if row.state = .dispatched then c.decide .dispatched else c.decide (.uncertain 503)
  | .error _ => c.decide (.uncertain 503)

def recovered (c : Command) : Answer → Command
  | .ok row => match row.state with
    | .reserved => c.send .release
    | .dispatched | .settled | .released | .waived => c.finish (some (.ok ()))
  | .error status => if refuses status then c.finish (some (.ok ())) else c.finish (some (.error status))

def released (c : Command) : Answer → Command
  | .ok row => if row.state ≠ .released then c.finish (some (.error 503)) else c.finish (some (.ok ()))
  | .error status => c.finish (some (.error status))

/-- What the worker does with the answer to a message. -/
def proceed (c : Command) (expired : Bool) (answer : Answer) : Message → Command
  | .reserve => c.admitted expired answer
  | .dispatch => c.dispatched answer
  | .recover => c.recovered answer
  | .release => c.released answer

/-- The worker sees one of the answers to its last request. -/
def receive (c : Command) (k : Nat) (expired : Bool) : Command := match c.phase, c.sent with
  | .waiting, last :: _ => match last.answers[k]? with
    | some answer => c.proceed expired answer last.message
    | none => c
  | _, _ => c

/-- The exchange fails for the worker, whether or not the request arrives. -/
def lose (c : Command) (expired : Bool) : Command := match c.phase, c.sent with
  | .waiting, last :: _ => c.proceed expired (.error 503) last.message
  | _, _ => c

/-- The worker answers the caller, and recovers what is not clear or not wanted any more. -/
def respond (c : Command) : Command := match c.phase with
  | .decided decision =>
    let answered := if c.closed then c else { c with reply := .sent decision.result }
    if decision.ambiguous || c.closed then answered.send .recover else answered.finish none
  | _ => c

/-- The caller is cancelled, or its deadline passes before it sees a result. -/
def leave (c : Command) : Command := match c.reply with
  | .waiting | .sent _ => { c with reply := .gone }
  | _ => c

/-- The admission returns the result it was sent. -/
def collect (c : Command) : Command := match c.reply with
  | .sent result => { c with reply := .returned result }
  | _ => c

/-- The control plane answers a request of the command. -/
def record (c : Command) (n : Nat) (answer : Answer) : Command :=
  { c with sent := c.sent.modify n fun s => { s with answers := s.answers ++ [answer] } }

end Command

/-! ## The system -/

/-- The control plane, and the commands of all gateways. -/
structure State where
  db : Db
  commands : List Command

def State.empty : State := ⟨Db.empty, []⟩

/-- The id a reserve brings into the books. -/
def reservedId : Op → Option String
  | .reserve _ request => some request.id
  | _ => none

/-- Whether an id belongs to a command. -/
def State.names (s : State) (id : String) : Bool := s.commands.any fun c => c.intent.id == id

/-- The id of an admission is a new one. -/
def State.fresh (s : State) (id : String) : Bool := !s.names id && (s.db.books.reservations.get? id).isNone

inductive Event where
  | submit (intent : ReserveRequest)
  | take (t : Nat) (expired : Bool)
  | receive (t k : Nat) (expired : Bool)
  | lose (t : Nat) (expired : Bool)
  | respond (t : Nat)
  | leave (t : Nat)
  | collect (t : Nat)
  /-- The control plane serves the request `n` of the command `t`. -/
  | serve (t n : Nat) (call : Call)
  /-- Any other operation of the control plane. Nobody else reserves the id of a command. -/
  | control (op : Op)

def State.on (s : State) (t : Nat) (f : Command → Command) : State := { s with commands := s.commands.modify t f }

/-- The request `n` of the command `t`. -/
def State.request? (s : State) (t n : Nat) : Option (Command × Sent) := do
  let c ← s.commands[t]?
  let sent ← c.sent[n]?
  pure (c, sent)

def State.serve (s : State) (t n : Nat) (call : Call) : State := match s.request? t n with
  | some (c, sent) =>
    let done := Tx.commit (sent.message.serve call c.intent) s.db
    { s.on t fun c => c.record n (decode done.1) with db := done.2 }
  | none => s

def Event.step (digests : Digests) : Event → State → State
  | .submit intent, s => if s.fresh intent.id then { s with commands := s.commands ++ [.new intent] } else s
  | .take t expired, s => s.on t fun c => c.take expired
  | .receive t k expired, s => s.on t fun c => c.receive k expired
  | .lose t expired, s => s.on t fun c => c.lose expired
  | .respond t, s => s.on t Command.respond
  | .leave t, s => s.on t Command.leave
  | .collect t, s => s.on t Command.collect
  | .serve t n call, s => s.serve t n call
  | .control op, s => if (reservedId op).any s.names then s else { s with db := op.run digests s.db }

def Event.run (digests : Digests) (events : List Event) (s : State) : State :=
  events.foldl (fun s event => event.step digests s) s

end Xscope.Admission

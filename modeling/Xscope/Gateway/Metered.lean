/-
From the queue to the ledger. A gateway sends the usage of its requests until the control plane has taken it; a
request for it may reach the control plane late, several times or never, and its answer may be lost. Every
submitted event is still in the queue, refused for good, or in the ledger, where it is charged once and for what
it says.
-/
import Xscope.Billing.Charges
import Xscope.Gateway.Delivery
import Xscope.Gateway.Usage

namespace Xscope.Gateway

/-! ## Reports at the control plane -/

/-- The numbers of a body are signed at the control plane. -/
def UsageEvent.decoded (e : UsageEvent) : Option Xscope.UsageEvent :=
  if [e.inputTokens, e.outputTokens, e.cachedInputTokens, e.latencyMs].all fun n => decide ((n : Int) ≤ i64Max) then
    some
      { schemaVersion := e.schemaVersion, eventId := e.eventId, requestId := e.requestId, occurredAt := e.occurredAt
        tenantId := e.tenantId, projectId := e.projectId, apiKeyId := e.apiKeyId, modelId := e.modelId
        modelRevision := e.modelRevision, endpointId := e.endpointId, region := e.region, priceVersion := e.priceVersion
        inputTokens := e.inputTokens, outputTokens := e.outputTokens, cachedInputTokens := e.cachedInputTokens
        latencyMs := e.latencyMs, status := e.status }
  else none

/-- The operation that a report asks for, on the project and the reservation that its path names. -/
def Report.op (call : Call) (ticket : Option Ticket) : Report → Option Op
  | .usage event => event.decoded.map (.recordUsage call)
  | .settle request => ticket.map fun t => .settle call t.projectId t.id request
  | .unresolved request => ticket.map fun t => .unresolved call t.projectId t.id request

def UsageEvent.op (reportUrl : String) (call : Call) (e : UsageEvent) : Option Op := match deliver reportUrl e with
  | .ok post => post.body.op call e.billing
  | .error _ => none

/-- What the delivery of an event asks for. -/
inductive Asks (e : UsageEvent) (call : Call) : Op → Prop
  | record (x : Xscope.UsageEvent) (unbilled : e.billing = none) (decoded : e.decoded = some x) :
      Asks e call (.recordUsage call x)
  | settle (ticket : Ticket) (request : SettleRequest) (billing : e.billing = some ticket)
      (within : withinTicket e ticket = true)
      (tokens : request.inputTokens = e.inputTokens ∧ request.outputTokens = e.outputTokens) :
      Asks e call (.settle call ticket.projectId ticket.id request)
  | report (ticket : Ticket) (request : UnresolvedRequest) (billing : e.billing = some ticket)
      (unknown : withinTicket e ticket = false) :
      Asks e call (.unresolved call ticket.projectId ticket.id request)

theorem tryI64_ok {n : Nat} {v : Int} (h : tryI64 n = .ok v) : v = n := by
  unfold tryI64 at h
  split at h
  · cases h
    rfl
  · cases h

theorem UsageEvent.op_asks {reportUrl : String} {call : Call} {e : UsageEvent} {op : Op}
    (h : e.op reportUrl call = some op) :
    Asks e call op := by
  unfold UsageEvent.op deliver at h
  cases billing : e.billing with
  | none =>
    rw [billing] at h
    simp only at h
    by_cases v1 : e.schemaVersion = "v1"
    · rw [if_pos v1] at h
      simp only [Report.op, Option.map_eq_some_iff] at h
      obtain ⟨x, decoded, rfl⟩ := h
      exact .record x billing decoded
    · rw [if_neg v1] at h
      cases h
  | some ticket =>
    rw [billing] at h
    simp only at h
    by_cases v2 : e.schemaVersion = "v2"
    · rw [if_neg (not_not.2 v2)] at h
      cases based : stripSuffix reportUrl "/usage-events" with
      | none =>
        rw [based] at h
        cases h
      | some base =>
        rw [based] at h
        simp only at h
        by_cases within : withinTicket e ticket = true
        · rw [if_pos within] at h
          cases input : tryI64 e.inputTokens with
          | error _ => rw [input] at h; cases h
          | ok i =>
            cases output : tryI64 e.outputTokens with
            | error _ => rw [input, output] at h; cases h
            | ok o =>
              cases latency : tryI64 e.latencyMs with
              | error _ => rw [input, output, latency] at h; cases h
              | ok l =>
                rw [input, output, latency] at h
                cases h
                exact .settle ticket _ billing within ⟨tryI64_ok input, tryI64_ok output⟩
        · rw [if_neg within] at h
          cases h
          exact .report ticket _ billing (Bool.not_eq_true _ |>.mp within)
    · rw [if_pos v2] at h
      cases h

/-! ## The queue and the control plane -/

/-- The events whose requests were sent, and those that the control plane has answered with success. -/
structure Reporting where
  queue : Delivery.System UsageEvent
  db : Db
  sent : List UsageEvent
  answered : List UsageEvent

def Reporting.start : Reporting := ⟨.start, .empty, [], []⟩

/-- A step of the queue, a request that was sent and is served, or any other operation of the control plane. -/
inductive Reporting.Act where
  | queue (act : Delivery.Act UsageEvent)
  | serve (call : Call) (event : UsageEvent)
  | other (op : Op)

namespace Reporting

/-- A worker sees a success only after an answer. -/
def allows (m : Reporting) : Delivery.Act UsageEvent → Bool
  | .complete _ worker (.ok _) => match m.queue.workers worker with
    | .sending _ event => m.answered.contains event
    | _ => true
  | _ => true

/-- The request that a worker sends when it has picked an event. -/
def asked (queue : Delivery.System UsageEvent) : Delivery.Act UsageEvent → List UsageEvent
  | .pick _ worker => match queue.workers worker with
    | .sending _ event => [event]
    | _ => []
  | _ => []

variable (settings : Delivery.Settings) (bytes : UsageEvent → Nat) (queue : Nat) (reportUrl : String)
    (digests : Digests)

def step (m : Reporting) : Reporting.Act → Reporting
  | .queue act =>
    if m.allows act then
      { m with
        queue := act.run settings bytes queue m.queue
        sent := asked (act.run settings bytes queue m.queue) act ++ m.sent }
    else m
  | .serve call event =>
    if m.sent.contains event then match event.op reportUrl call with
      | none => m
      | some op =>
        { m with
          db := op.run digests m.db
          answered := if op.succeeds digests m.db then event :: m.answered else m.answered }
    else m
  | .other op => { m with db := op.run digests m.db }

def run (acts : List Reporting.Act) : Reporting := acts.foldl (step settings bytes queue reportUrl digests) .start

end Reporting

/-! ## What is in the books -/

/-- The books have the event: its own row, the settlement of its reservation, or what became of a reservation
whose usage it leaves open. -/
inductive Booked (b : Books) (e : UsageEvent) : Prop
  | recorded (x : Xscope.UsageEvent) (now cost : Int) (unbilled : e.billing = none) (decoded : e.decoded = some x)
      (there : recordedUsage now x cost ∈ b.usageEvents) (charged : ChargedOnce b (recordedUsage now x cost))
  | settled (ticket : Ticket) (r : Reservation) (u : UsageRow) (billing : e.billing = some ticket)
      (there : r ∈ b.reservations)
      (id : r.id = ticket.id) (event : u ∈ b.usageEvents) (own : SettledBy r u)
      (tokens : u.inputTokens = e.inputTokens ∧ u.outputTokens = e.outputTokens) (charged : ChargedOnce b u)
  | open (ticket : Ticket) (r : Reservation) (billing : e.billing = some ticket)
      (unknown : withinTicket e ticket = false)
      (there : r ∈ b.reservations) (id : r.id = ticket.id) (reported : r.Reported)

/-- What an answer to the request of an event says of the books, then and later. -/
inductive Answered (b : Books) (e : UsageEvent) : Prop
  | recorded (x : Xscope.UsageEvent) (u : UsageRow) (unbilled : e.billing = none) (decoded : e.decoded = some x)
      (there : u ∈ b.usageEvents)
      (own : u.eventId = e.eventId)
  | settled (ticket : Ticket) (r : Reservation) (request : SettleRequest) (billing : e.billing = some ticket)
      (there : r ∈ b.reservations)
      (id : r.id = ticket.id) (state : r.state = .settled) (completion : r.completion = some (.settled request))
      (tokens : request.inputTokens = e.inputTokens ∧ request.outputTokens = e.outputTokens)
  | open (ticket : Ticket) (billing : e.billing = some ticket) (unknown : withinTicket e ticket = false)
      (reported : ∃ r ∈ b.reservations, r.id = ticket.id ∧ r.Reported)

theorem Answered.moves {b b' : Books} {e : UsageEvent} {ks : List Kind} (h : Answered b e)
    (moves : Moves ks b b') : Answered b' e := by
  cases h with
  | recorded x u unbilled decoded there own => exact .recorded x u unbilled decoded (moves.rows.1 u there) own
  | settled ticket r request billing there id state completion tokens =>
    obtain ⟨r', there', continues⟩ := moves.carried r there
    have same : r' = r := continues.ended (by rw [state]; rfl)
    exact .settled ticket r request billing (same ▸ there') id state completion tokens
  | «open» ticket billing unknown reported => exact .open ticket billing unknown (moves.reported reported)

section Served

variable {digests : Digests} {db : Db} {e : UsageEvent} {call : Call} {op : Op}

/-- A settlement that succeeds leaves its own completion. -/
theorem settleMoney_completion {project id : String} {request : SettleRequest} {r : Reservation × Db}
    (h : settleMoney call project id request db = .ok r) : r.1.completion = some (.settled request) := by
  unfold settleMoney at h
  simp only [lockAccount_bind, findReservation_bind] at h
  obtain ⟨a, -, row, -, -, -, h⟩ := h
  unfold settleLocked at h
  simp only [Tx.reject_bind] at h
  obtain ⟨-, h⟩ := h
  by_cases settled : row.state = .settled
  · rw [if_pos settled, Tx.reject_bind] at h
    obtain ⟨same, h⟩ := h
    cases Tx.pure_ok.1 h
    exact not_not.1 same
  · rw [if_neg settled] at h
    simp only [Tx.reject_bind, checkDomain_bind] at h
    obtain ⟨-, -, amount, -, h⟩ := h
    obtain ⟨_, _, -, h⟩ := Tx.bind_ok.1 h
    obtain ⟨_, _, -, h⟩ := Tx.bind_ok.1 h
    obtain ⟨_, _, -, h⟩ := Tx.bind_ok.1 h
    obtain ⟨_, _, -, h⟩ := Tx.bind_ok.1 h
    obtain ⟨_, _, -, h⟩ := Tx.bind_ok.1 h
    obtain ⟨_, _, -, h⟩ := Tx.bind_ok.1 h
    obtain ⟨_, _, -, h⟩ := Tx.bind_ok.1 h
    cases Tx.pure_ok.1 h
    rfl

theorem Asks.answered (h : Asks e call op) (g : Good db.books db.projections)
    (succeeded : op.succeeds digests db = true) :
    Answered (op.run digests db).books e := by
  have mark := Op.mark digests g succeeded
  cases h with
  | record x unbilled decoded =>
    obtain ⟨u, there, own⟩ := mark
    have named : x.eventId = e.eventId := by
      unfold UsageEvent.decoded at decoded
      split at decoded
      · cases decoded
        rfl
      · cases decoded
    exact .recorded x u unbilled decoded there (own.trans named)
  | settle ticket request billing within tokens =>
    obtain ⟨r, made⟩ := Succeeds.ok succeeded
    obtain ⟨-, there, id, state⟩ := settleMoney_step g made
    have books : (Op.run digests (.settle call ticket.projectId ticket.id request) db) = r.2 := by
      show (Tx.commit _ db).2 = _
      rw [Tx.commit_of_ok made]
    rw [books]
    exact .settled ticket r.1 request billing there id state (settleMoney_completion made) tokens
  | report ticket request billing unknown => exact .open ticket billing unknown mark

/-- The events of an operation: those of before, the one it records, or that of a settlement. -/
theorem Op.usage_origin (digests : Digests) (op : Op) (g : Good db.books db.projections) {u : UsageRow}
    (hu : u ∈ (op.run digests db).books.usageEvents) : u ∈ db.books.usageEvents ∨
      (∃ call x now cost, op = .recordUsage call x ∧ u = recordedUsage now x cost) ∨
        ∃ id, u.eventId = "evt-reservation-" ++ id := by
  have moves := (op.step digests g).moves
  have origin := moves.keeps (I := fun b => ∀ u ∈ b.usageEvents, u ∈ db.books.usageEvents ∨
    (∃ x now cost, Kind.usage x ∈ op.kinds ∧ u = recordedUsage now x cost) ∨ ∃ id, u.eventId = "evt-reservation-" ++
      id) ?_ fun _ h => .inl h
  · rcases origin u hu with old | ⟨x, now, cost, kind, rfl⟩ | settled
    · exact .inl old
    · refine .inr (.inl ?_)
      cases op with
      | recordUsage call event =>
        simp only [Op.kinds, List.mem_cons, reduceCtorEq, Kind.usage.injEq, List.not_mem_nil, or_false,
          false_or] at kind
        subst kind
        exact ⟨call, x, now, cost, rfl, rfl⟩
      | _ => simp [Op.kinds] at kind
    · exact .inr (.inr settled)
  · intro k hk b b' m old u hu
    cases m with
    | registry g => rw [g.usageEvents] at hu; exact old u hu
    | settle call a r request amount us ha hp hr hs wf hin hout cost funds hi post =>
      obtain ⟨ts, es, rfl⟩ := post.eq
      rcases (Table.mem_insert? hi).1 hu with rfl | hu
      · exact .inr (.inr ⟨r.id, rfl⟩)
      · exact old u hu
    | usage call a e cost us ha hp unreserved priced funds hi post =>
      obtain ⟨ts, es, rfl⟩ := post.eq
      rcases (Table.mem_insert? hi).1 hu with rfl | hu
      · exact .inr (.inl ⟨e, call.now, cost, hk, rfl⟩)
      · exact old u hu
    | topUp call a o id provider reference currency key description ps ha hp ho hpend hfit hi post =>
      obtain ⟨ts, es, rfl⟩ := post.eq; exact old u hu
    | refund call a o p row key description rs ha hp ho hpay hprov hrow hst hpos le limit funds hi post =>
      obtain ⟨ts, es, rfl⟩ := post.eq; exact old u hu
    | prepare call a o p row key description rs ha hp ho hpay hprov hrow hst hpos limit funds hi post =>
      obtain ⟨ts, es, rfl⟩ := post.eq; exact old u hu
    | complete call a o p row trade ha hp ho hpay hprov hrow hpid hst post =>
      obtain ⟨ts, es, rfl⟩ := post.eq; exact old u hu
    | _ => exact old u hu

end Served

/-! ## The books and the queue agree -/

section Runs

variable {settings : Delivery.Settings} {bytes : UsageEvent → Nat} {queue : Nat} {reportUrl : String}
    {digests : Digests}

/-- What an act adds to the history: a submission is of its event, and a success ends the send of a worker. -/
structure Delivery.Act.Adds (act : Delivery.Act UsageEvent) (s s' : Delivery.System UsageEvent)
    (news : List (Delivery.Happening UsageEvent)) :
    Prop where
  history : s'.history = news ++ s.history
  submitted : ∀ id e, .submitted id e ∈ news → ∃ now permit, act = .submit now permit e
  succeeded : ∀ id e, .sent id e (.ok ()) ∈ news → ∃ now worker, act = .complete now worker (.ok ()) ∧
    s.workers worker = .sending id e

theorem Delivery.Act.Adds.nothing {act : Delivery.Act UsageEvent} {s s' : Delivery.System UsageEvent}
    (same : s'.history = s.history) :
    act.Adds s s' [] := ⟨same, fun _ _ h => absurd h List.not_mem_nil, fun _ _ h => absurd h List.not_mem_nil⟩

theorem Delivery.Act.adds (act : Delivery.Act UsageEvent) (s : Delivery.System UsageEvent) :
    ∃ news, act.Adds s (act.run settings bytes queue s) news := by
  cases act with
  | reserve now =>
    simp only [Delivery.Act.run, Delivery.System.reserve]
    split
    · exact ⟨[_], rfl, by simp, by simp⟩
    · exact ⟨[], .nothing rfl⟩
  | submit now permit event =>
    simp only [Delivery.Act.run, Delivery.System.submit]
    split
    · exact ⟨[], .nothing rfl⟩
    · split
      · refine ⟨[.submitted permit.id event], rfl, fun id e h => ?_, by simp⟩
        cases List.mem_singleton.1 h
        exact ⟨now, permit, rfl⟩
      · exact ⟨[], .nothing rfl⟩
  | drop permit =>
    simp only [Delivery.Act.run, Delivery.System.drop]
    split
    · exact ⟨[], .nothing rfl⟩
    · split
      · exact ⟨[_], rfl, by simp, by simp⟩
      · exact ⟨[], .nothing rfl⟩
  | pick now worker =>
    simp only [Delivery.Act.run, Delivery.System.pick]
    repeat' split
    all_goals exact ⟨[], .nothing rfl⟩
  | complete now worker outcome =>
    simp only [Delivery.Act.run, Delivery.System.complete]
    split
    · rename_i id event sending
      refine ⟨[.sent id event outcome], rfl, by simp, fun i e h => ?_⟩
      cases List.mem_singleton.1 h
      exact ⟨now, worker, rfl, sending⟩
    · exact ⟨[], .nothing rfl⟩
  | beginDrain => exact ⟨[], .nothing rfl⟩
  | finish now thread => exact ⟨[], .nothing rfl⟩
  | look now thread =>
    simp only [Delivery.Act.run, Delivery.System.look]
    repeat' split
    all_goals exact ⟨[], .nothing rfl⟩

theorem Delivery.Happening.of_submission {x : Delivery.Happening UsageEvent} {id : Nat} {e : UsageEvent}
    (h : x.submission id = some e) :
    x = .submitted id e := by
  cases x with
  | submitted i event =>
    simp only [Delivery.Happening.submission, Option.ite_none_right_eq_some, Option.some.injEq] at h
    obtain ⟨rfl, rfl⟩ := h
    rfl
  | _ => cases h

/-- A worker sends what was submitted. -/
theorem Delivery.System.Sound.sends {s : Delivery.System UsageEvent} (h : s.Sound settings queue) {worker id : Nat}
    {e : UsageEvent} (sending : s.workers worker = .sending id e) : .submitted id e ∈ s.history := by
  cases h.slots id with
  | unused _ _ _ _ _ none | held _ _ _ _ _ _ _ _ none | queued _ _ _ _ _ _ _ _ none | gone _ _ _ none =>
    exact absurd sending (none worker e)
  | sending _ event _ _ _ _ _ submissions _ only =>
    obtain ⟨-, rfl⟩ := (only worker e).1 sending
    have there : e ∈ Delivery.submissions id s.history := by
      rw [show Delivery.submissions id s.history = [e] from submissions]
      exact List.mem_singleton_self e
    obtain ⟨x, hx, submission⟩ := List.mem_filterMap.1 there
    rw [← Delivery.Happening.of_submission submission]
    exact hx

/-- The events `P` of the queue and the books agree: no other event has the id of one of them, and an answered
one is in the books. -/
structure Reporting.Sound (settings : Delivery.Settings) (queue : Nat) (P : UsageEvent → Prop)
    (m : Reporting) : Prop where
  queue : m.queue.Sound settings queue
  good : Good m.db.books m.db.projections
  charges : m.db.books.Charges
  submitted : ∀ id e, .submitted id e ∈ m.queue.history → P e
  sent : ∀ e ∈ m.sent, P e
  recorded : ∀ e, P e → ∀ u ∈ m.db.books.usageEvents, u.eventId = e.eventId → ∃ x now cost, e.decoded = some x ∧
    u = recordedUsage now x cost
  answered : ∀ e ∈ m.answered, Answered m.db.books e
  acknowledged : ∀ id e, .sent id e (.ok ()) ∈ m.queue.history → e ∈ m.answered

/-- The ids of the events `P` are their own, and no other operation `other` records an event under one of them. -/
structure Named (P : UsageEvent → Prop) (other : Op → Prop) : Prop where
  own : ∀ e e', P e → P e' → e.eventId = e'.eventId → e = e'
  apart : ∀ e, P e → ∀ id, e.eventId ≠ "evt-reservation-" ++ id
  others : ∀ call x, other (.recordUsage call x) → ∀ e, P e → x.eventId ≠ e.eventId

variable {P : UsageEvent → Prop} {other : Op → Prop}

theorem Reporting.Sound.start (settings : Delivery.Settings) (queue : Nat) (P : UsageEvent → Prop) :
    Reporting.start.Sound settings queue P where
  queue := .start settings queue
  good := .empty
  charges := .empty
  submitted := fun _ _ h => absurd h List.not_mem_nil
  sent := fun _ h => absurd h List.not_mem_nil
  recorded := fun _ _ u h => absurd h (Table.not_mem_empty u)
  answered := fun _ h => absurd h List.not_mem_nil
  acknowledged := fun _ _ h => absurd h List.not_mem_nil

/-- An operation that records no foreign event under one of the ids. -/
theorem Reporting.Sound.serve {m : Reporting} (h : m.Sound settings queue P) (op : Op)
    (records : ∀ call x, op = .recordUsage call x → ∀ e, P e → x.eventId = e.eventId → e.decoded = some x)
    (named : Named P other) {answered : List UsageEvent}
    (answers : ∀ e ∈ answered, Answered (op.run digests m.db).books e) (more : ∀ e ∈ m.answered, e ∈ answered) :
    ({ m with db := op.run digests m.db, answered := answered } : Reporting).Sound settings queue P where
  queue := h.queue
  good := (op.step digests h.good).good h.good
  charges := (op.step digests h.good).moves.charges h.charges
  submitted := h.submitted
  sent := h.sent
  recorded := by
    intro e he u hu same
    rcases Op.usage_origin digests op h.good hu with old | ⟨call, x, now, cost, rfl, rfl⟩ | ⟨id, settled⟩
    · exact h.recorded e he u old same
    · exact ⟨x, now, cost, records call x rfl e he same, rfl⟩
    · exact absurd (same.symm.trans settled) (named.apart e he id)
  answered := answers
  acknowledged := fun id e sent => more e (h.acknowledged id e sent)

theorem UsageEvent.decoded_id {e : UsageEvent} {x : Xscope.UsageEvent}
    (h : e.decoded = some x) : x.eventId = e.eventId := by
  unfold UsageEvent.decoded at h
  split at h
  · cases h
    rfl
  · cases h

/-- A step that submits and records only what it may. -/
structure Reporting.Act.Within (P : UsageEvent → Prop) (other : Op → Prop) (act : Reporting.Act) : Prop where
  submits : ∀ now permit e, act = .queue (.submit now permit e) → P e
  others : ∀ op, act = .other op → other op

theorem Reporting.Sound.step {m : Reporting} (h : m.Sound settings queue P) (named : Named P other)
    {act : Reporting.Act} (within : act.Within P other) :
    (m.step settings bytes queue reportUrl digests act).Sound settings queue P := by
  have carried (op : Op) : ∀ e ∈ m.answered, Answered (op.run digests m.db).books e :=
    fun e he => (h.answered e he).moves (op.step digests h.good).moves
  cases act with
  | queue act =>
    simp only [Reporting.step]
    split
    · rename_i allows
      have sound : (act.run settings bytes queue m.queue).Sound settings queue := Delivery.Act.sound h.queue act
      obtain ⟨news, adds⟩ : ∃ news, act.Adds m.queue (act.run settings bytes queue m.queue) news :=
        Delivery.Act.adds act m.queue
      have submitted : ∀ id e, .submitted id e ∈ (act.run settings bytes queue m.queue).history → P e := by
        intro id e there
        rw [adds.history] at there
        rcases List.mem_append.1 there with new | old
        · obtain ⟨now, permit, rfl⟩ := adds.submitted id e new
          exact within.submits now permit e rfl
        · exact h.submitted id e old
      -- what the act adds to the history it submitted itself, or a worker had on the way
      refine ⟨sound, h.good, h.charges, submitted, fun e he => ?_, h.recorded, h.answered, fun id e sent => ?_⟩
      · rcases List.mem_append.1 he with asked | old
        · cases act with
          | pick now worker =>
            simp only [Reporting.asked] at asked
            split at asked
            · rename_i id event sending
              cases List.mem_singleton.1 asked
              exact submitted id e (sound.sends sending)
            · cases asked
          | _ => cases asked
        · exact h.sent e old
      · rw [adds.history] at sent
        rcases List.mem_append.1 sent with new | old
        · obtain ⟨now, worker, rfl, sending⟩ := adds.succeeded id e new
          simp only [Reporting.allows, sending] at allows
          exact List.contains_iff_mem.1 allows
        · exact h.acknowledged id e old
    · exact h
  | serve call event =>
    simp only [Reporting.step]
    split
    · rename_i sent
      cases asked : event.op reportUrl call with
      | none => exact h
      | some op =>
        have asks := UsageEvent.op_asks asked
        -- the request is for an event that was sent, so it records no other one under its names
        refine h.serve op ?_ named (fun e he => ?_) fun e he => ?_
        · rintro call' x rfl e he same
          cases asks with
          | record _ unbilled decoded =>
            have own := h.sent event (List.contains_iff_mem.1 sent)
            cases named.own e event he own (same.symm.trans (UsageEvent.decoded_id decoded))
            exact decoded
        · split at he
          · rename_i succeeded
            rcases List.mem_cons.1 he with rfl | he
            · exact asks.answered h.good succeeded
            · exact carried op e he
          · exact carried op e he
        · split
          · exact List.mem_cons_of_mem _ he
          · exact he
    · exact h
  | other op =>
    refine h.serve op ?_ named (carried op) fun e he => he
    rintro call x rfl e he same
    exact absurd same (named.others call x (within.others _ rfl) e he)

/-- An answered event is in the books. -/
theorem Reporting.Sound.booked {m : Reporting} (h : m.Sound settings queue P) {e : UsageEvent} (he : P e)
    (answered : e ∈ m.answered) :
    Booked m.db.books e := by
  cases h.answered e answered with
  | recorded x u unbilled decoded there own =>
    obtain ⟨x', now, cost, decoded', rfl⟩ := h.recorded e he u there own
    exact .recorded x' now cost unbilled decoded' there (h.charges.billed.events _ there)
  | settled ticket r request billing there id state completion tokens =>
    obtain ⟨u, event, own⟩ := h.charges.reported r there state
    have ⟨_, now, account, request', amount, completion', _, same⟩ := own
    have settled : request' = request := by
      rw [completion] at completion'
      cases completion'
      rfl
    subst settled
    exact .settled ticket r u billing there id event own (by rw [same]; exact tokens) (h.charges.billed.events u event)
  | «open» ticket billing unknown reported =>
    obtain ⟨r, there, id, reported⟩ := reported
    exact .open ticket r billing unknown there id reported

theorem Reporting.Sound.run (acts : List Reporting.Act) {m : Reporting} (h : m.Sound settings queue P)
    (named : Named P other) (within : ∀ act ∈ acts, act.Within P other) :
    (acts.foldl (Reporting.step settings bytes queue reportUrl digests) m).Sound settings queue P := by
  induction acts generalizing m with
  | nil => exact h
  | cons act rest ih =>
    exact ih (h.step named (within act List.mem_cons_self)) fun a ha => within a (List.mem_cons_of_mem _ ha)

/-- An event that a run hands to the queue. -/
def Reporting.Submits (acts : List Reporting.Act) (e : UsageEvent) : Prop :=
  ∃ now permit, .queue (.submit now permit e) ∈ acts

/-- Over any run of the queue and the control plane, with requests that are served late, repeatedly or never: an
event that was submitted is still in the queue, was refused for good, or is in the books, which charge it once. -/
theorem Reporting.run_booked (settings : Delivery.Settings) (bytes : UsageEvent → Nat) (queue : Nat)
    (reportUrl : String) (digests : Digests) (acts : List Reporting.Act)
    (named : Named (Reporting.Submits acts) fun op => .other op ∈ acts) :
    let m := Reporting.run settings bytes queue reportUrl digests acts
    ∀ id e, .submitted id e ∈ m.queue.history →
      (∃ entry ∈ m.queue.state.entries, entry.id = id ∧ entry.event = some e) ∨
      (∃ status, .sent id e (.error (.permanent status)) ∈ m.queue.history) ∨
      Booked m.db.books e := by
  intro m id e submitted
  have within : ∀ act ∈ acts, act.Within (Reporting.Submits acts) fun op => .other op ∈ acts := by
    intro act there
    constructor
    · rintro now permit e rfl
      exact ⟨now, permit, there⟩
    · rintro op rfl
      exact there
  have sound : m.Sound settings queue (Reporting.Submits acts) :=
    (Reporting.Sound.start settings queue _).run acts named within
  rcases sound.queue.exact.kept id e submitted with queued | ⟨outcome, ended, sent⟩
  · exact .inl queued
  · cases outcome with
    | ok _ => exact .inr (.inr (sound.booked (sound.submitted id e submitted) (sound.acknowledged id e sent)))
    | error error =>
      cases error with
      | retry status => cases ended
      | permanent status => exact .inr (.inl ⟨status, sent⟩)

end Runs

/-! ## Samples -/

/-- Whether a worker without work is to take the only entry of the queue, and what it leaves when it has. -/
def Reporting.waits (settings : Delivery.Settings) (now worker : Nat) (m : Reporting) : Bool :=
  match m.queue.workers worker, m.queue.state.entries.rows with
  | .idle, [entry] => entry.ready now && decide (worker < settings.workers) && !m.queue.state.stopped
  | _, _ => false

def Reporting.taken (worker : Nat) (m : Reporting) : Reporting := match m.queue.state.entries.rows with
  | [entry] => match entry.event with
    | some event =>
      let state := { m.queue.state with entries := m.queue.state.entries.put { entry with busy := true } }
      { m with queue := { m.queue with state := state }.setWorker worker (.sending entry.id event)
               sent := event :: m.sent }
    | none => m
  | _ => m

section
variable {settings : Delivery.Settings} {bytes : UsageEvent → Nat} {queue : Nat} {reportUrl : String}
    {digests : Digests}

theorem Reporting.step_pick {now worker : Nat} {m : Reporting} (waits : m.waits settings now worker = true) :
    m.step settings bytes queue reportUrl digests (.queue (.pick now worker)) = m.taken worker := by
  unfold Reporting.waits at waits
  split at waits
  · rename_i entry idle rows
    simp only [Bool.and_eq_true, decide_eq_true_eq, Bool.not_eq_true'] at waits
    obtain ⟨⟨ready, worker'⟩, running⟩ := waits
    obtain ⟨event, carried⟩ : ∃ event, entry.event = some event := by
      simp only [Delivery.Entry.ready, Bool.and_eq_true] at ready
      exact Option.isSome_iff_exists.1 ready.1.2
    have first : m.queue.state.ordered.find? (Delivery.Entry.ready now) = some entry := by
      simp [Delivery.State.ordered, rows, ready]
    have picked : m.queue.pick settings now worker = { m.queue with state := { m.queue.state with
        entries := m.queue.state.entries.put { entry with busy := true } } }.setWorker worker
          (.sending entry.id event) := by
      simp only [Delivery.System.pick, Delivery.State.pick, idle, not_le.2 worker', running, first, carried, if_false,
        Option.map_some]
      rfl
    simp only [Reporting.step, Reporting.allows, Delivery.Act.run, picked, Reporting.asked, Reporting.taken, rows,
      carried, if_true]
    simp [Delivery.System.setWorker]
  · cases waits

end

/-- The usage of a request of its own, and that of a reserved request. -/
def directEvent : UsageEvent :=
  { billing := none, usageKnown := true, schemaVersion := "v1", eventId := "evt-b", requestId := "direct"
    occurredAt := 1790000000000000, tenantId := "tenant", projectId := "project", apiKeyId := "key"
    modelId := "xscope-demo", modelRevision := "revision", endpointId := "endpoint", region := "local"
    priceVersion := "2026-09-01", inputTokens := 5, outputTokens := 6, cachedInputTokens := 0, latencyMs := 9
    status := "succeeded" }

def reservedEvent : UsageEvent :=
  { directEvent with
    billing := some ⟨"r1", "project", 10, 10⟩, schemaVersion := "v2", eventId := "evt-a", requestId := "request-r1"
    inputTokens := 3, outputTokens := 4 }

def sampleSettings : Delivery.Settings := ⟨8, 2, Delivery.millis 3600000, Delivery.millis 10000⟩

def sampleSteps (acts : List Reporting.Act) (m : Reporting) : Reporting :=
  acts.foldl (Reporting.step sampleSettings (fun _ => 512) 7 "http://control/usage-events" sampleDigests) m

/-- A request is reserved and dispatched, and its usage submitted. -/
def sampleDue : Reporting :=
  sampleSteps ((sampleSetup ++ sampleRequestRun.take 2).map .other ++
    [.queue (.reserve 0), .queue (.submit 1 ⟨7, 1⟩ reservedEvent)]) .start

/-- Its settlement is served twice and answered, and a second event submitted. -/
def sampleAnswered : Reporting :=
  sampleSteps [.serve (sampleCall 5) reservedEvent, .serve (sampleCall 6) reservedEvent,
    .queue (.complete 3 0 (.ok ())), .queue (.reserve 4), .queue (.submit 5 ⟨7, 2⟩ directEvent)] (sampleDue.taken 0)

/-- The second event is recorded, and the answer lost. -/
def sampleReporting : Reporting :=
  sampleSteps [.serve (sampleCall 7) directEvent, .queue (.complete 7 1 (.error (.retry 0)))] (sampleAnswered.taken 1)

def sampleReports : List Reporting.Act :=
  ((sampleSetup ++ sampleRequestRun.take 2).map .other ++
    [.queue (.reserve 0), .queue (.submit 1 ⟨7, 1⟩ reservedEvent)]) ++
    .queue (.pick 2 0) :: ([.serve (sampleCall 5) reservedEvent, .serve (sampleCall 6) reservedEvent,
      .queue (.complete 3 0 (.ok ())), .queue (.reserve 4), .queue (.submit 5 ⟨7, 2⟩ directEvent)] ++
    .queue (.pick 6 1) :: [.serve (sampleCall 7) directEvent, .queue (.complete 7 1 (.error (.retry 0)))])

theorem sampleReports_run :
    Reporting.run sampleSettings (fun _ => 512) 7 "http://control/usage-events" sampleDigests sampleReports =
      sampleReporting := by
  have first : sampleDue.waits sampleSettings 2 0 = true := by decide +kernel
  have second : sampleAnswered.waits sampleSettings 6 1 = true := by decide +kernel
  unfold Reporting.run sampleReports
  rw [List.foldl_append, List.foldl_cons]
  show sampleSteps _ (Reporting.step _ _ _ _ _ sampleDue _) = _
  rw [Reporting.step_pick first]
  unfold sampleSteps
  rw [List.foldl_append, List.foldl_cons]
  show sampleSteps _ (Reporting.step _ _ _ _ _ sampleAnswered _) = _
  rw [Reporting.step_pick second]
  rfl

theorem sample_submits {e : UsageEvent} (h : Reporting.Submits sampleReports e) :
    e = reservedEvent ∨ e = directEvent := by
  obtain ⟨now, permit, there⟩ := h
  simp [sampleReports, sampleSetup, sampleRequestRun] at there
  tauto

/-- The event was refused for good. -/
def Delivery.Happening.refusal : Delivery.Happening UsageEvent → Bool
  | .sent _ _ (.error (.permanent _)) => true
  | _ => false

/-- The settled event is in the books, charged once, and the other still in the queue. -/
theorem sample_booked : Booked sampleReporting.db.books reservedEvent ∧ sampleReporting.queue.state.entries.rows.map
    (fun e => e.id) = [2] := by
  have queued : sampleReporting.queue.state.entries.rows.map (fun e => e.id) = [2] := by decide +kernel
  refine ⟨?_, queued⟩
  have named : Named (Reporting.Submits sampleReports) fun op => .other op ∈ sampleReports := by
    refine ⟨fun e e' he he' same => ?_, fun e he id same => ?_, fun call x there => ?_⟩
    · rcases sample_submits he with rfl | rfl <;> rcases sample_submits he' with rfl | rfl
      · rfl
      · exact absurd same (by decide)
      · exact absurd same (by decide)
      · rfl
    · have short : e.eventId.length = 5 := by rcases sample_submits he with rfl | rfl <;> rfl
      rw [same, String.length_append, show "evt-reservation-".length = 16 from rfl] at short
      omega
    · simp [sampleReports, sampleSetup, sampleRequestRun] at there
  have booked := Reporting.run_booked sampleSettings (fun _ => 512) 7 "http://control/usage-events" sampleDigests
    sampleReports named
  rw [sampleReports_run] at booked
  obtain ⟨x, there, submission⟩ : ∃ x ∈ sampleReporting.queue.history, x.submission 1 = some reservedEvent := by
    decide +kernel
  cases Delivery.Happening.of_submission submission
  rcases booked 1 reservedEvent there with ⟨entry, held, id, -⟩ | ⟨status, refused⟩ | booked
  · have listed : entry.id ∈ sampleReporting.queue.state.entries.rows.map fun e => e.id :=
      List.mem_map.2 ⟨entry, held, rfl⟩
    rw [queued, id] at listed
    exact absurd listed (by decide)
  · have none : sampleReporting.queue.history.any Delivery.Happening.refusal = false := by decide +kernel
    exact absurd (List.any_eq_false.1 none _ refused) (by simp [Delivery.Happening.refusal])
  · exact booked

end Xscope.Gateway

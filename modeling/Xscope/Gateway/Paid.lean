/-
No prompt is forwarded unpaid: an admission that returned was dispatched at the control plane, and its
reservation has stood since then as dispatched, settled or waived. A recovery asks for no dispatch,
and what it asks for dispatches nothing.
-/
import Xscope.Gateway.Workers
import Xscope.Billing.Lifecycle

namespace Xscope.Admission

variable {digests : Digests}

/-! ## A dispatched reservation -/

/-- The reservation `id` was dispatched, and nothing has undone that. -/
def Standing (b : Books) (id : String) : Prop :=
  ∃ r ∈ b.reservations, r.id = id ∧ (r.state = .dispatched ∨ r.state = .settled ∨ r.state = .waived)

theorem next_standing {s s' : ReservationState} (h : Relation.ReflTransGen ReservationState.Next s s')
    (hs : s = .dispatched ∨ s = .settled ∨ s = .waived) : s' = .dispatched ∨ s' = .settled ∨ s' = .waived := by
  induction h with
  | refl => exact hs
  | tail _ next ih =>
    cases next with
    | settle => exact .inr (.inl rfl)
    | waiveDispatched => exact .inr (.inr rfl)
    | dispatch => simp at ih
    | release => simp at ih
    | waiveReserved => simp at ih

theorem Standing.carried {b b' : Books} {id : String} (h : Standing b id)
    (carried : Carried b b') : Standing b' id := by
  obtain ⟨r, hr, hid, state⟩ := h
  obtain ⟨r', hr', c⟩ := carried r hr
  exact ⟨r', hr', c.terms.id.trans hid, next_standing c.leads state⟩

/-! ## The messages as operations -/

/-- The operation of the control plane that serves a message. -/
def Message.op (call : Call) (intent : ReserveRequest) : Message → Op
  | .reserve | .recover => .reserve call intent
  | .dispatch => .dispatch call intent.projectId intent.id
  | .release => .release call intent.projectId intent.id ⟨"not_dispatched"⟩

theorem Message.serve_run (m : Message) (call : Call) (intent : ReserveRequest) (db : Db) :
    (Tx.commit (m.serve call intent) db).2 = (m.op call intent).run digests db := by
  cases m <;> rfl

/-- Without a dispatch no reservation becomes dispatched: here, by reserving and releasing. -/
theorem Moves.undispatched {ks : List Kind} {b b' : Books} (h : Moves ks b b')
    (hk : ∀ k ∈ ks, k = .release ∨ ∃ now, k = .reserve now) :
    ∀ r ∈ b'.reservations, r.state = .dispatched → r ∈ b.reservations := by
  refine h.keeps (I := fun c => ∀ r ∈ c.reservations, r.state = .dispatched → r ∈ b.reservations) ?_ fun r hr _ => hr
  intro k hm c c' m ih r hr state
  rcases hk k hm with rfl | ⟨now, rfl⟩
  · cases m with
    | release now old reason ho hs =>
      rcases Table.mem_put.1 hr with ⟨hr, -⟩ | ⟨rfl, -⟩
      · exact ih r hr state
      · cases state
  · cases m with
    | reserve now a request entry key amount rs ha hp wf hm hid hk hkid cost fresh unused funds budget hi =>
      rcases (Table.mem_insert? hi).1 hr with rfl | hr
      · cases state
      · exact ih r hr state

/-! ## The protocol of a worker -/

/-- `P` holds once a dispatch of the command was granted, and so whenever its worker or its caller
relies on that. -/
structure Command.Backed (P : Prop) (c : Command) : Prop where
  granted : ∀ s ∈ c.sent, s.message = .dispatch → ∀ row, .ok row ∈ s.answers → P
  decided : c.phase = .decided .dispatched → P
  reply : c.reply = .sent (.ok ()) ∨ c.reply = .returned (.ok ()) → P

namespace Command

variable {P : Prop} {c : Command}

theorem Backed.mono {P' : Prop} (h : c.Backed P) (hp : P → P') : c.Backed P' :=
  ⟨fun s hs hm row hr => hp (h.granted s hs hm row hr), fun hd => hp (h.decided hd), fun hr => hp (h.reply hr)⟩

theorem Backed.new (intent : ReserveRequest) : (new intent).Backed P := by
  refine ⟨fun s hs => (by cases hs), fun h => (by cases h), ?_⟩
  rintro (h | h) <;> cases h

theorem Backed.send (h : c.Backed P) (m : Message) : (c.send m).Backed P := by
  refine ⟨fun s hs hm row hr => ?_, fun hd => (by cases hd), h.reply⟩
  rcases List.mem_cons.1 hs with rfl | hs
  · cases hr
  · exact h.granted s hs hm row hr

theorem Backed.decide (h : c.Backed P) {d : Decision} (hd : d = .dispatched → P) : (c.decide d).Backed P :=
  ⟨h.granted, fun e => hd (Phase.decided.inj e), h.reply⟩

theorem Backed.finish (h : c.Backed P) (o : Option (Except Nat Unit)) : (c.finish o).Backed P :=
  ⟨h.granted, fun e => (by cases e), h.reply⟩

theorem Backed.take (h : c.Backed P) (expired : Bool) : (c.take expired).Backed P := by
  unfold Command.take
  split
  · split
    · exact h.finish none
    · exact h.send .reserve
  · exact h

theorem Backed.admitted (h : c.Backed P) (expired : Bool) (answer : Answer) : (c.admitted expired answer).Backed P := by
  cases answer with
  | ok row =>
    rw [Command.admitted]
    split
    · exact h.decide (by simp)
    · split
      · exact h.decide (by simp)
      · exact h.send .dispatch
  | error status =>
    rw [Command.admitted]
    split
    · exact h.decide (by simp)
    · exact h.decide (by simp)

/-- The only decision to dispatch is made on a granted dispatch. -/
theorem Backed.dispatched (h : c.Backed P) {answer : Answer} (hp : ∀ row, answer = .ok row → P) :
    (c.dispatched answer).Backed P := by
  cases answer with
  | ok row =>
    rw [Command.dispatched]
    split
    · exact h.decide fun _ => hp row rfl
    · exact h.decide (by simp)
  | error status => exact h.decide (by simp)

theorem Backed.recovered (h : c.Backed P) (answer : Answer) : (c.recovered answer).Backed P := by
  cases answer with
  | ok row =>
    rw [Command.recovered]
    split
    · exact h.send .release
    all_goals exact h.finish _
  | error status =>
    rw [Command.recovered]
    split
    · exact h.finish _
    · exact h.finish _

theorem Backed.released (h : c.Backed P) (answer : Answer) : (c.released answer).Backed P := by
  cases answer with
  | ok row =>
    rw [Command.released]
    split
    · exact h.finish _
    · exact h.finish _
  | error status => exact h.finish _

theorem Backed.proceed (h : c.Backed P) (expired : Bool) {answer : Answer} {m : Message}
    (hp : m = .dispatch → ∀ row, answer = .ok row → P) : (c.proceed expired answer m).Backed P := by
  cases m with
  | reserve => exact h.admitted expired answer
  | dispatch => exact h.dispatched (hp rfl)
  | recover => exact h.recovered answer
  | release => exact h.released answer

theorem Backed.receive (h : c.Backed P) (k : Nat) (expired : Bool) : (c.receive k expired).Backed P := by
  unfold Command.receive
  split
  · rename_i last rest phase sent
    split
    · rename_i answer found
      refine h.proceed expired fun hm row e => ?_
      subst e
      exact h.granted last (by rw [sent]; exact List.mem_cons_self ..) hm row (List.mem_of_getElem? found)
    · exact h
  · exact h

theorem Backed.lose (h : c.Backed P) (expired : Bool) : (c.lose expired).Backed P := by
  unfold Command.lose
  split
  · exact h.proceed expired fun _ row e => by cases e
  · exact h

/-- The caller is sent a success only for a decision to dispatch. -/
theorem Backed.respond (h : c.Backed P) : c.respond.Backed P := by
  unfold Command.respond
  split
  · rename_i decision phase
    have answered : (if c.closed then c else { c with reply := .sent decision.result } : Command).Backed P := by
      split
      · exact h
      · refine ⟨h.granted, h.decided, ?_⟩
        rintro (e | e)
        · apply h.decided
          rw [phase]
          cases decision with
          | dispatched => rfl
          | rejected status => cases e
          | uncertain status => cases e
        · cases e
    dsimp only
    split
    · exact answered.send .recover
    · exact answered.finish none
  · exact h

theorem Backed.leave (h : c.Backed P) : c.leave.Backed P := by
  unfold Command.leave
  split
  · exact ⟨h.granted, h.decided, by rintro (e | e) <;> cases e⟩
  · exact ⟨h.granted, h.decided, by rintro (e | e) <;> cases e⟩
  · exact h

theorem Backed.collect (h : c.Backed P) : c.collect.Backed P := by
  unfold Command.collect
  split
  · rename_i result reply
    refine ⟨h.granted, h.decided, ?_⟩
    rintro (e | e)
    · cases e
    · cases e
      exact h.reply (.inl reply)
  · exact h

/-- The requests of a command after one of them was answered. -/
theorem mem_record {n : Nat} {answer : Answer} {s : Sent} (hs : s ∈ (c.record n answer).sent) :
    s ∈ c.sent ∨ ∃ old, c.sent[n]? = some old ∧ s = { old with answers := old.answers ++ [answer] } := by
  obtain ⟨i, hi⟩ := List.mem_iff_getElem?.1 hs
  rw [show (c.record n answer).sent = c.sent.modify n _ from rfl, List.getElem?_modify] at hi
  obtain ⟨old, ho, rfl⟩ := Option.map_eq_some_iff.1 hi
  split
  · rename_i he
    subst he
    exact .inr ⟨old, ho, rfl⟩
  · exact .inl (List.mem_of_getElem? ho)

theorem Backed.record (h : c.Backed P) {n : Nat} {answer : Answer}
    (hp : ∀ s, c.sent[n]? = some s → s.message = .dispatch → ∀ row, answer = .ok row → P) :
    (c.record n answer).Backed P := by
  refine ⟨fun s hs hm row hr => ?_, h.decided, h.reply⟩
  rcases mem_record hs with hs | ⟨old, ho, rfl⟩
  · exact h.granted s hs hm row hr
  · rcases List.mem_append.1 hr with hr | hr
    · exact h.granted old (List.mem_of_getElem? ho) hm row hr
    · exact hp old ho hm row (List.mem_singleton.1 hr).symm

/-! ## The intent of a command -/

@[simp] theorem take_intent (c : Command) (expired : Bool) : (c.take expired).intent = c.intent := by
  unfold Command.take
  split
  · split <;> rfl
  · rfl

@[simp] theorem proceed_intent (c : Command) (expired : Bool) (answer : Answer) (m : Message) :
    (c.proceed expired answer m).intent = c.intent := by
  cases m <;> cases answer <;> simp only [proceed, admitted, dispatched, recovered, released] <;>
    (repeat' split) <;> rfl

@[simp] theorem receive_intent (c : Command) (k : Nat) (expired : Bool) : (c.receive k expired).intent = c.intent := by
  unfold Command.receive
  split
  · split
    · exact proceed_intent ..
    · rfl
  · rfl

@[simp] theorem lose_intent (c : Command) (expired : Bool) : (c.lose expired).intent = c.intent := by
  unfold Command.lose
  split
  · exact proceed_intent ..
  · rfl

@[simp] theorem respond_intent (c : Command) : c.respond.intent = c.intent := by
  unfold Command.respond
  split
  · dsimp only
    split <;> split <;> rfl
  · rfl

@[simp] theorem leave_intent (c : Command) : c.leave.intent = c.intent := by
  unfold Command.leave
  split <;> rfl

@[simp] theorem collect_intent (c : Command) : c.collect.intent = c.intent := by
  unfold Command.collect
  split <;> rfl

@[simp] theorem record_intent (c : Command) (n : Nat) (answer : Answer) : (c.record n answer).intent = c.intent := rfl

end Command

/-! ## The system -/

section System

variable (digests)

theorem State.on_all {Q : Command → Prop} {s : State} {t : Nat} {f : Command → Command} (h : ∀ c ∈ s.commands, Q c)
    (hf : ∀ c, s.commands[t]? = some c → Q c → Q (f c)) : ∀ c ∈ (s.on t f).commands, Q c := by
  intro c hc
  obtain ⟨i, hi⟩ := List.mem_iff_getElem?.1 hc
  rw [show (s.on t f).commands = s.commands.modify t f from rfl, List.getElem?_modify] at hi
  obtain ⟨old, ho, rfl⟩ := Option.map_eq_some_iff.1 hi
  have hq := h old (List.mem_of_getElem? ho)
  split
  · rename_i he
    subst he
    exact hf old ho hq
  · exact hq

theorem State.request?_some {s : State} {t n : Nat} {c : Command} {sent : Sent} (h : s.request? t n = some (c, sent)) :
    s.commands[t]? = some c ∧ c.sent[n]? = some sent := by
  simp only [State.request?, Option.bind_eq_bind, Option.bind_eq_some_iff, Option.pure_def, Option.some.injEq,
    Prod.mk.injEq] at h
  obtain ⟨_, hc, _, hn, rfl, rfl⟩ := h
  exact ⟨hc, hn⟩

/-- An event runs at most one operation of the control plane. -/
theorem Event.step_db (event : Event) (s : State) :
    (event.step digests s).db = s.db ∨ ∃ op : Op, (event.step digests s).db = op.run digests s.db := by
  cases event with
  | submit intent =>
    rw [Event.step]
    split
    · exact .inl rfl
    · exact .inl rfl
  | serve t n call =>
    rw [Event.step, State.serve]
    split
    · rename_i c sent found
      exact .inr ⟨sent.message.op call c.intent, sent.message.serve_run call c.intent s.db⟩
    · exact .inl rfl
  | control op =>
    rw [Event.step]
    split
    · exact .inl rfl
    · exact .inr ⟨op, rfl⟩
  | _ => exact .inl rfl

theorem Event.step_good (event : Event) {s : State} (g : Good s.db.books s.db.projections) :
    Good (event.step digests s).db.books (event.step digests s).db.projections ∧
      Carried s.db.books (event.step digests s).db.books := by
  rcases event.step_db digests s with same | ⟨op, ran⟩
  · rw [same]
    exact ⟨g, .of_eq rfl⟩
  · rw [ran]
    have step := op.step digests g
    exact ⟨step.good g, step.moves.carried⟩

/-- What the workers and the callers rely on, for every command. -/
structure State.Paid (s : State) : Prop where
  good : Good s.db.books s.db.projections
  backed : ∀ c ∈ s.commands, c.Backed (Standing s.db.books c.intent.id)

theorem State.Paid.empty : State.empty.Paid := ⟨Good.empty, fun c hc => (by cases hc)⟩

theorem State.Paid.on {s : State} (h : s.Paid) {t : Nat} {f : Command → Command}
    (hf : ∀ {P : Prop} {c : Command}, c.Backed P → (f c).Backed P) (intent : ∀ c, (f c).intent = c.intent) :
    (s.on t f).Paid := by
  refine ⟨h.good, State.on_all h.backed fun c _ backed => ?_⟩
  rw [intent]
  exact hf backed

/-- A granted dispatch leaves the reservation standing. -/
theorem serve_standing {m : Message} {call : Call} {intent : ReserveRequest} {db : Db}
    (g : Good db.books db.projections) (hm : m = .dispatch) {row : Reservation}
    (h : decode (Tx.commit (m.serve call intent) db).1 = .ok row) :
    Standing (Tx.commit (m.serve call intent) db).2.books intent.id := by
  subst hm
  rcases Tx.commit_cases (Message.dispatch.serve call intent) db with ⟨a, s, ran, committed⟩ | ⟨e, -, failed⟩
  · rw [committed]
    obtain ⟨-, found, hid, state⟩ := dispatchMoney_step g ran
    exact ⟨a, found, hid, .inl state⟩
  · rw [failed] at h
    cases h

theorem State.Paid.serve {s : State} (h : s.Paid) (t n : Nat) (call : Call) : (s.serve t n call).Paid := by
  have moved := (Event.serve t n call).step_good sampleDigests h.good
  change Good (s.serve t n call).db.books (s.serve t n call).db.projections ∧
    Carried s.db.books (s.serve t n call).db.books at moved
  refine ⟨moved.1, ?_⟩
  have carried := moved.2
  revert carried
  unfold State.serve
  split
  · rename_i c sent found
    intro carried
    obtain ⟨hc, hn⟩ := State.request?_some found
    refine State.on_all (s := s) (fun x hx => (h.backed x hx).mono fun standing => standing.carried carried) ?_
    intro x hx backed
    obtain rfl : c = x := Option.some.inj (hc.symm.trans hx)
    refine backed.record fun sent' hs hm row answer => ?_
    obtain rfl : sent = sent' := Option.some.inj (hn.symm.trans hs)
    exact serve_standing h.good hm answer
  · intro _
    exact h.backed

theorem Event.step_paid (event : Event) {s : State} (h : s.Paid) : (event.step digests s).Paid := by
  cases event with
  | submit intent =>
    rw [Event.step]
    split
    · refine ⟨h.good, fun c hc => ?_⟩
      rcases List.mem_append.1 hc with hc | hc
      · exact h.backed c hc
      · rw [List.mem_singleton.1 hc]
        exact .new intent
    · exact h
  | take t expired => exact h.on (fun b => b.take expired) fun c => c.take_intent expired
  | receive t k expired => exact h.on (fun b => b.receive k expired) fun c => c.receive_intent k expired
  | lose t expired => exact h.on (fun b => b.lose expired) fun c => c.lose_intent expired
  | respond t => exact h.on (fun b => b.respond) Command.respond_intent
  | leave t => exact h.on (fun b => b.leave) Command.leave_intent
  | collect t => exact h.on (fun b => b.collect) Command.collect_intent
  | serve t n call => exact h.serve t n call
  | control op =>
    rw [Event.step]
    split
    · exact h
    · have step := op.step digests h.good
      exact ⟨step.good h.good, fun c hc => (h.backed c hc).mono fun standing => standing.carried step.moves.carried⟩

theorem Event.run_paid (events : List Event) {s : State} (h : s.Paid) : (Event.run digests events s).Paid := by
  induction events generalizing s with
  | nil => exact h
  | cons event events ih => exact ih (event.step_paid digests h)

/-- What stands once stands after every later event. -/
theorem Event.run_standing (events : List Event) {s : State} (g : Good s.db.books s.db.projections) {id : String}
    (h : Standing s.db.books id) : Standing (Event.run digests events s).db.books id := by
  induction events generalizing s with
  | nil => exact h
  | cons event events ih =>
    obtain ⟨good, carried⟩ := event.step_good digests g
    exact ih good (h.carried carried)

theorem Event.run_append (events later : List Event) (s : State) :
    Event.run digests (events ++ later) s = Event.run digests later (Event.run digests events s) := by
  simp [Event.run]

/-- The requests of a recovery dispatch nothing. -/
theorem serve_undispatched {s : State} (g : Good s.db.books s.db.projections) {t n : Nat} {c : Command} {sent : Sent}
    (found : s.request? t n = some (c, sent)) (hm : sent.message.recovers = true) (call : Call) :
    ∀ r ∈ (s.serve t n call).db.books.reservations, r.state = .dispatched → r ∈ s.db.books.reservations := by
  have ran : (s.serve t n call).db = (sent.message.op call c.intent).run sampleDigests s.db := by
    unfold State.serve
    rw [found]
    exact sent.message.serve_run call c.intent s.db
  rw [ran]
  refine Moves.undispatched ((sent.message.op call c.intent).step sampleDigests g).moves ?_
  intro k hk
  cases h : sent.message with
  | reserve => rw [h] at hm; cases hm
  | dispatch => rw [h] at hm; cases hm
  | recover =>
    rw [h] at hk
    exact .inr ⟨call.now, List.mem_singleton.1 hk⟩
  | release =>
    rw [h] at hk
    exact .inl (List.mem_singleton.1 hk)

/-- In every run of the workers and the control plane, an admission that returned was dispatched and
stands from then on, and the requests of a recovery dispatch nothing. -/
theorem Event.run_forwards_paid (events : List Event) :
    (∀ c ∈ (Event.run digests events State.empty).commands, c.reply = .returned (.ok ()) →
      ∀ later, Standing (Event.run digests (events ++ later) State.empty).db.books c.intent.id) ∧
    ∀ t n call c sent, (Event.run digests events State.empty).request? t n = some (c, sent) →
      sent.message.recovers = true →
        ∀ r ∈ (Event.run digests (events ++ [.serve t n call]) State.empty).db.books.reservations,
          r.state = .dispatched → r ∈ (Event.run digests events State.empty).db.books.reservations := by
  have paid := Event.run_paid digests events State.Paid.empty
  constructor
  · intro c hc returned later
    rw [Event.run_append]
    exact Event.run_standing digests later paid.good ((paid.backed c hc).reply (.inr returned))
  · intro t n call c sent found recovers
    rw [Event.run_append]
    exact serve_undispatched paid.good found recovers call

end System

end Xscope.Admission

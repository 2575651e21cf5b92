/-
What a recovery leaves behind. A recovery that returned found the reservation past its hold, released
it, or was refused the reservation; in the last case there was none at that moment. So no hold is left
in the state reserved, unless a reserve of the same command that was still on the way arrives after
the refusal and is granted.
-/
import Xscope.Gateway.Paid

namespace Xscope.Admission

/-! ## Reservations and their ids -/

/-- The reservation `id` exists and is past its hold. -/
def Past (b : Books) (id : String) : Prop := ∃ r ∈ b.reservations, r.id = id ∧ r.state ≠ .reserved

/-- There is no reservation `id`. -/
def Absent (b : Books) (id : String) : Prop := ∀ r ∈ b.reservations, r.id ≠ id

/-- The reservation under the id of an intent is that of the intent, whose tenant owns the account. -/
def Bound (b : Books) (intent : ReserveRequest) : Prop := ∀ r ∈ b.reservations, r.id = intent.id →
  r.spec = intent ∧ intent.wellFormed = true ∧
    ∃ a ∈ b.accounts, a.projectId = intent.projectId ∧ a.tenantId = intent.tenantId

theorem next_past {s s' : ReservationState} (h : Relation.ReflTransGen ReservationState.Next s s')
    (hs : s ≠ .reserved) :
    s' ≠ .reserved := by
  induction h with
  | refl => exact hs
  | tail _ next _ => cases next <;> simp

theorem Past.carried {b b' : Books} {id : String} (h : Past b id) (carried : Carried b b') : Past b' id := by
  obtain ⟨r, hr, hid, state⟩ := h
  obtain ⟨r', hr', c⟩ := carried r hr
  exact ⟨r', hr', c.terms.id.trans hid, next_past c.leads state⟩

/-- The row with an id is the only one. -/
theorem Past.unheld {b : Books} {id : String} (h : Past b id) :
    ∀ r ∈ b.reservations, r.id = id → r.state ≠ .reserved := by
  intro r hr hid
  obtain ⟨x, hx, hx', state⟩ := h
  rw [Table.eq_of_key hr hx (hid.trans hx'.symm)]
  exact state

theorem Absent.bound {b : Books} {intent : ReserveRequest} (h : Absent b intent.id) : Bound b intent :=
  fun r hr hid => absurd hid (h r hr)

/-- A new reservation is that of its request, and the only row that is new. -/
theorem admitted_new {b b' : Books} {a : BillingAccount} {now : Int} {request : ReserveRequest} {row : Reservation}
    (h : Admitted b a now request row b') : row.id = request.id ∧ row.spec = request ∧ b'.accounts = b.accounts ∧
      ∀ x ∈ b'.reservations, x = row ∨ x ∈ b.reservations := by
  obtain ⟨⟨entry, -, -, -, amount, new⟩, rs, inserted, books⟩ := h
  refine ⟨by rw [new]; rfl, by rw [new]; rfl, by rw [books], fun x hx => ?_⟩
  rw [books] at hx
  exact (Table.mem_insert? inserted).1 hx

/-- Reservations come from a reserve of their id, and keep their terms. -/
theorem Op.origin {digests : Digests} (op : Op) {db : Db} (g : Good db.books db.projections) :
    ∀ x ∈ (op.run digests db).books.reservations, (∃ y ∈ db.books.reservations, SameTerms y x) ∨
      reservedId op = some x.id := by
  intro x hx
  by_cases reserves : ∃ call request, op = .reserve call request
  · obtain ⟨call, request, rfl⟩ := reserves
    change x ∈ (Tx.commit (reserveMoney call request) db).2.books.reservations at hx
    rcases Tx.commit_cases (reserveMoney call request) db with ⟨row, s, ran, committed⟩ | ⟨e, -, failed⟩
    · rw [committed] at hx
      obtain ⟨-, a, -, -, -, ⟨same, -⟩ | admitted⟩ := reserveMoney_inv g ran
      · rw [show s = db from same] at hx
        exact .inl ⟨x, hx, .refl x⟩
      · obtain ⟨hid, -, -, rows⟩ := admitted_new admitted
        rcases rows x hx with rfl | hx
        · exact .inr (congrArg some hid.symm)
        · exact .inl ⟨x, hx, .refl x⟩
    · rw [failed] at hx
      exact .inl ⟨x, hx, .refl x⟩
  · left
    refine (op.step digests g).moves.origin (fun k hk now e => ?_) x hx
    subst e
    cases op with
    | reserve call request => exact reserves ⟨call, request, rfl⟩
    | _ => simp [Op.kinds] at hk

theorem Absent.run {digests : Digests} {op : Op} {db : Db} {id : String} (h : Absent db.books id)
    (g : Good db.books db.projections) (other : reservedId op ≠ some id) : Absent (op.run digests db).books id := by
  intro x hx hid
  rcases Op.origin op g x hx with ⟨y, hy, terms⟩ | reserved
  · exact h y hy (terms.id.symm.trans hid)
  · exact other (reserved.trans (congrArg some hid))

theorem Bound.run {digests : Digests} {op : Op} {db : Db} {intent : ReserveRequest} (h : Bound db.books intent)
    (g : Good db.books db.projections) (other : reservedId op ≠ some intent.id) :
    Bound (op.run digests db).books intent := by
  intro x hx hid
  rcases Op.origin op g x hx with ⟨y, hy, terms⟩ | reserved
  · obtain ⟨spec, wf, a, ha, project, tenant⟩ := h y hy (terms.id.symm.trans hid)
    obtain ⟨flag, stays⟩ := (op.step digests g).moves.accountsStay a ha
    exact ⟨terms.spec.trans spec, wf, _, stays, project, tenant⟩
  · exact absurd (reserved.trans (congrArg some hid)) other

/-! ## Serving a message -/

/-- An existing reservation is replayed, whatever has become of its key, its price or its balance. -/
theorem reserveMoney_replays {call : Call} {intent : ReserveRequest} {db : Db} {r : Reservation}
    (g : Good db.books db.projections) (bound : Bound db.books intent) (hr : r ∈ db.books.reservations)
    (hid : r.id = intent.id) :
    reserveMoney call intent db = .ok (r, db) := by
  obtain ⟨spec, wf, a, ha, project, tenant⟩ := bound r hr hid
  have owns : (a.projectId == intent.projectId) = true := by simpa using project
  obtain ⟨a', found⟩ := Table.find_isSome_of_mem (p := fun x : BillingAccount =>
    x.projectId == intent.projectId) ha owns
  obtain ⟨ha', project'⟩ := account_of_find found
  obtain rfl : a' = a := g.owned.unique a' ha' a ha (project'.trans project.symm)
  unfold reserveMoney
  simp only [Tx.reject_bind, lockAccount_bind, findById_bind]
  refine ⟨by simpa using wf, a', found, by simpa using tenant, ?_⟩
  have stored : (Slot.reservations.get db).get? intent.id = some r := Table.get?_some_iff.2 ⟨hr, hid⟩
  rw [stored]
  simp only [Tx.reject_bind]
  exact ⟨by simpa using spec, rfl⟩

/-- The row a message is answered with is in the books. -/
theorem serve_found {m : Message} {call : Call} {intent : ReserveRequest} {db s : Db} {row : Reservation}
    (g : Good db.books db.projections) (h : m.serve call intent db = .ok (row, s)) :
    row ∈ s.books.reservations ∧ row.id = intent.id := by
  cases m with
  | reserve => exact (reserveMoney_step g h).2
  | recover => exact (reserveMoney_step g h).2
  | dispatch =>
    obtain ⟨-, found, hid, -⟩ := dispatchMoney_step g h
    exact ⟨found, hid⟩
  | release =>
    obtain ⟨-, found, hid, -⟩ := releaseMoney_step g h
    exact ⟨found, hid⟩

theorem Message.op_reserves (m : Message) (call : Call) (intent : ReserveRequest) :
    reservedId (m.op call intent) = if m.reserves then some intent.id else none := by
  cases m <;> rfl

theorem Message.serve_bound {digests : Digests} {m : Message} {call : Call} {intent : ReserveRequest} {db : Db}
    (g : Good db.books db.projections) (bound : Bound db.books intent) :
    Bound ((m.op call intent).run digests db).books intent := by
  by_cases reserves : m.reserves = true
  · rw [← m.serve_run call intent db]
    have serves : m.serve call intent = reserveMoney call intent := by
      cases m with
      | reserve => rfl
      | recover => rfl
      | dispatch => cases reserves
      | release => cases reserves
    rw [serves]
    rcases Tx.commit_cases (reserveMoney call intent) db with ⟨row, s, ran, committed⟩ | ⟨e, -, failed⟩
    · rw [committed]
      obtain ⟨wf, a, ha, project, tenant, ⟨same, -⟩ | admitted⟩ := reserveMoney_inv g ran
      · rw [show s = db from same]
        exact bound
      · obtain ⟨-, spec, accounts, rows⟩ := admitted_new admitted
        intro x hx hid
        have stays : a ∈ s.books.accounts := by rw [accounts]; exact ha
        rcases rows x hx with rfl | hx
        · exact ⟨spec, wf, a, stays, project, tenant⟩
        · exact ⟨(bound x hx hid).1, wf, a, stays, project, tenant⟩
    · rw [failed]
      exact bound
  · refine bound.run g ?_
    rw [m.op_reserves, if_neg reserves]
    simp

/-- A refused reserve changes nothing, and there was no reservation to replay. -/
theorem serve_refused {m : Message} {call : Call} {intent : ReserveRequest} {db : Db} (g : Good db.books db.projections)
    (bound : Bound db.books intent) (hm : m = .recover) {status : Nat}
    (h : decode (Tx.commit (m.serve call intent) db).1 = .error status) :
    Absent (Tx.commit (m.serve call intent) db).2.books intent.id := by
  subst hm
  rcases Tx.commit_cases (Message.recover.serve call intent) db with ⟨row, s, -, committed⟩ | ⟨e, refused, failed⟩
  · rw [committed] at h
    cases h
  · rw [failed]
    intro r hr hid
    rw [show Message.recover.serve call intent db = reserveMoney call intent db from rfl,
      reserveMoney_replays g bound hr hid] at refused
    cases refused

/-! ## The protocol of a worker -/

/-- An answer that is read as proof that there is no hold. -/
def Answer.refused : Answer → Bool
  | .ok _ => false
  | .error status => Command.refuses status

/-- The control plane has refused the reserve of the recovery of the command. -/
def Command.turnedAway (c : Command) : Prop :=
  ∃ s ∈ c.sent, s.message = .recover ∧ ∃ answer ∈ s.answers, Answer.refused answer = true

instance (c : Command) : Decidable c.turnedAway :=
  inferInstanceAs (Decidable (∃ s ∈ c.sent, s.message = .recover ∧ ∃ answer ∈ s.answers, Answer.refused answer = true))

/-- What the answers to a command say of its reservation, and what its recovery concluded from them. -/
structure Command.Tracked (b : Books) (c : Command) : Prop where
  bound : Bound b c.intent
  answered : ∀ s ∈ c.sent, ∀ row, .ok row ∈ s.answers → row.state ≠ .reserved → Past b c.intent.id
  refused : c.turnedAway → Absent b c.intent.id
  recovered : c.phase = .finished (some (.ok ())) → Past b c.intent.id ∨ c.turnedAway

namespace Command

variable {b b' : Books} {c : Command}

/-- A command is tracked through a step of the control plane that brings in no reservation of an
unwanted id. -/
theorem Tracked.carried (h : c.Tracked b) (carried : Carried b b') (bound : Bound b' c.intent)
    (absent : c.turnedAway → Absent b' c.intent.id) : c.Tracked b' := by
  refine ⟨bound, fun s hs row hr state => (h.answered s hs row hr state).carried carried, absent, fun done => ?_⟩
  exact (h.recovered done).imp (fun past => past.carried carried) id

theorem Tracked.new {intent : ReserveRequest} (h : Absent b intent.id) : (new intent).Tracked b := by
  refine ⟨h.bound, fun s hs => (by cases hs), ?_, fun done => (by cases done)⟩
  rintro ⟨s, hs, -⟩
  cases hs

theorem turnedAway_send {m : Message} : (c.send m).turnedAway ↔ c.turnedAway := by
  constructor
  · rintro ⟨s, hs, hm, answer, he, refused⟩
    rcases List.mem_cons.1 hs with rfl | hs
    · cases he
    · exact ⟨s, hs, hm, answer, he, refused⟩
  · rintro ⟨s, hs, rest⟩
    exact ⟨s, List.mem_cons_of_mem _ hs, rest⟩

theorem Tracked.send (h : c.Tracked b) (m : Message) : (c.send m).Tracked b := by
  refine ⟨h.bound, fun s hs row hr => ?_, fun away => h.refused (turnedAway_send.1 away), fun done => (by cases done)⟩
  rcases List.mem_cons.1 hs with rfl | hs
  · cases hr
  · exact h.answered s hs row hr

theorem Tracked.decide (h : c.Tracked b) (d : Decision) : (c.decide d).Tracked b :=
  ⟨h.bound, h.answered, h.refused, fun done => (by cases done)⟩

theorem Tracked.finish (h : c.Tracked b) {o : Option (Except Nat Unit)}
    (ho : o = some (.ok ()) → Past b c.intent.id ∨ c.turnedAway) : (c.finish o).Tracked b :=
  ⟨h.bound, h.answered, h.refused, fun done => ho (Phase.finished.inj done)⟩

theorem Tracked.take (h : c.Tracked b) (expired : Bool) : (c.take expired).Tracked b := by
  unfold Command.take
  split
  · split
    · exact h.finish fun done => (by cases done)
    · exact h.send .reserve
  · exact h

theorem Tracked.admitted (h : c.Tracked b) (expired : Bool) (answer : Answer) :
    (c.admitted expired answer).Tracked b := by
  cases answer with
  | ok row =>
    rw [Command.admitted]
    split
    · exact h.decide _
    · split
      · exact h.decide _
      · exact h.send .dispatch
  | error status =>
    rw [Command.admitted]
    split
    · exact h.decide _
    · exact h.decide _

theorem Tracked.dispatched (h : c.Tracked b) (answer : Answer) : (c.dispatched answer).Tracked b := by
  cases answer with
  | ok row =>
    rw [Command.dispatched]
    split
    · exact h.decide _
    · exact h.decide _
  | error status => exact h.decide _

/-- A recovery returns on a reservation past its hold, or on a refusal. -/
theorem Tracked.recovered' (h : c.Tracked b) {answer : Answer}
    (past : ∀ row, answer = .ok row → row.state ≠ .reserved → Past b c.intent.id)
    (away : ∀ status, answer = .error status → refuses status = true → c.turnedAway) :
    (c.recovered answer).Tracked b := by
  cases answer with
  | ok row =>
    rw [Command.recovered]
    cases state : row.state with
    | reserved => exact h.send .release
    | dispatched => exact h.finish fun _ => .inl (past row rfl (by simp [state]))
    | settled => exact h.finish fun _ => .inl (past row rfl (by simp [state]))
    | released => exact h.finish fun _ => .inl (past row rfl (by simp [state]))
    | waived => exact h.finish fun _ => .inl (past row rfl (by simp [state]))
  | error status =>
    rw [Command.recovered]
    split
    · rename_i refused
      exact h.finish fun _ => .inr (away status rfl refused)
    · exact h.finish fun done => (by cases done)

theorem Tracked.released (h : c.Tracked b) {answer : Answer}
    (past : ∀ row, answer = .ok row → row.state ≠ .reserved → Past b c.intent.id) : (c.released answer).Tracked b := by
  cases answer with
  | ok row =>
    rw [Command.released]
    split
    · exact h.finish fun done => (by cases done)
    · rename_i state
      rw [ne_eq, not_not] at state
      exact h.finish fun _ => .inl (past row rfl (by simp [state]))
  | error status => exact h.finish fun done => (by cases done)

theorem Tracked.proceed (h : c.Tracked b) (expired : Bool) {answer : Answer} {m : Message}
    (past : ∀ row, answer = .ok row → row.state ≠ .reserved → Past b c.intent.id)
    (away : m = .recover → ∀ status, answer = .error status → refuses status = true → c.turnedAway) :
    (c.proceed expired answer m).Tracked b := by
  cases m with
  | reserve => exact h.admitted expired answer
  | dispatch => exact h.dispatched answer
  | recover => exact h.recovered' past (away rfl)
  | release => exact h.released past

theorem Tracked.receive (h : c.Tracked b) (k : Nat) (expired : Bool) : (c.receive k expired).Tracked b := by
  unfold Command.receive
  split
  · rename_i last rest phase sent
    have mem : last ∈ c.sent := by
      rw [sent]
      exact List.mem_cons_self
    split
    · rename_i answer found
      have seen := List.mem_of_getElem? found
      apply h.proceed expired
      · rintro row rfl state
        exact h.answered last mem row seen state
      · rintro hm status rfl refuses
        exact ⟨last, mem, hm, .error status, seen, refuses⟩
    · exact h
  · exact h

/-- A lost exchange is no refusal. -/
theorem Tracked.lose (h : c.Tracked b) (expired : Bool) : (c.lose expired).Tracked b := by
  unfold Command.lose
  split
  · apply h.proceed expired
    · intro row e
      cases e
    · intro _ status e refuses
      cases e
      revert refuses
      simp [Command.refuses]
  · exact h

theorem Tracked.reply (h : c.Tracked b) (reply : Reply) : Tracked b { c with reply := reply } :=
  ⟨h.bound, h.answered, h.refused, h.recovered⟩

theorem Tracked.respond (h : c.Tracked b) : c.respond.Tracked b := by
  unfold Command.respond
  split
  · rename_i decision phase
    have answered : Tracked b (if c.closed then c else { c with reply := .sent decision.result }) := by
      split
      · exact h
      · exact h.reply _
    dsimp only
    split
    · exact answered.send .recover
    · exact answered.finish fun done => (by cases done)
  · exact h

theorem Tracked.leave (h : c.Tracked b) : c.leave.Tracked b := by
  unfold Command.leave
  split
  · exact h.reply _
  · exact h.reply _
  · exact h

theorem Tracked.collect (h : c.Tracked b) : c.collect.Tracked b := by
  unfold Command.collect
  split
  · exact h.reply _
  · exact h

theorem turnedAway_record (h : c.turnedAway) (n : Nat) (answer : Answer) : (c.record n answer).turnedAway := by
  obtain ⟨s, hs, hm, given, he, refused⟩ := h
  obtain ⟨i, hi⟩ := List.mem_iff_getElem?.1 hs
  have recorded : (c.record n answer).sent[i]? =
      some (if n = i then { s with answers := s.answers ++ [answer] } else s) := by
    rw [show (c.record n answer).sent = c.sent.modify n _ from rfl, List.getElem?_modify, hi]
    split <;> rfl
  refine ⟨_, List.mem_of_getElem? recorded, ?_, given, ?_, refused⟩
  · split <;> exact hm
  · split
    · exact List.mem_append_left _ he
    · exact he

theorem Tracked.record (h : c.Tracked b) {n : Nat} {answer : Answer}
    (past : ∀ row, answer = .ok row → row.state ≠ .reserved → Past b c.intent.id)
    (absent : ∀ s, c.sent[n]? = some s → s.message = .recover → ∀ status, answer = .error status →
    Absent b c.intent.id) :
    (c.record n answer).Tracked b := by
  refine ⟨h.bound, fun s hs row hr state => ?_, ?_, fun done => ?_⟩
  · rcases mem_record hs with hs | ⟨old, ho, rfl⟩
    · exact h.answered s hs row hr state
    · rcases List.mem_append.1 hr with hr | hr
      · exact h.answered old (List.mem_of_getElem? ho) row hr state
      · exact past row (List.mem_singleton.1 hr).symm state
  · rintro ⟨s, hs, hm, given, he, refused⟩
    rcases mem_record hs with hs | ⟨old, ho, rfl⟩
    · exact h.refused ⟨s, hs, hm, given, he, refused⟩
    · rcases List.mem_append.1 he with he | he
      · exact h.refused ⟨old, List.mem_of_getElem? ho, hm, given, he, refused⟩
      · rw [List.mem_singleton] at he
        subst he
        cases given with
        | ok row => cases refused
        | error status => exact absent old ho hm status rfl
  · exact (h.recovered done).imp id fun away => turnedAway_record away n answer

end Command

/-! ## The system -/

section System

variable (digests : Digests)

theorem State.on_names (s : State) (t : Nat) {f : Command → Command} (intent : ∀ c, (f c).intent = c.intent) :
    (s.on t f).commands.map (·.intent.id) = s.commands.map (·.intent.id) := by
  apply List.ext_getElem?
  intro i
  rw [show (s.on t f).commands = s.commands.modify t f from rfl, List.getElem?_map, List.getElem?_map,
    List.getElem?_modify]
  cases s.commands[i]? with
  | none => rfl
  | some c =>
    show some (if t = i then f c else c).intent.id = some c.intent.id
    split
    · rw [intent]
    · rfl

/-- No reserve of a command arrives after its recovery was refused. -/
def Event.Orderly (s : State) : Event → Prop
  | .serve t n _ => ∀ asked ∈ s.request? t n, asked.2.message.reserves = true → ¬asked.1.turnedAway
  | _ => True

instance (s : State) (event : Event) : Decidable (event.Orderly s) := match event with
  | .serve t n _ => inferInstanceAs
    (Decidable (∀ asked ∈ s.request? t n, asked.2.message.reserves = true → ¬asked.1.turnedAway))
  | .submit _ | .take .. | .receive .. | .lose .. | .respond _ | .leave _ | .collect _ | .control _ => instDecidableTrue

/-- A run whose events are all orderly where they happen. -/
def Event.AllOrderly : List Event → State → Prop
  | [], _ => True
  | event :: events, s => event.Orderly s ∧ AllOrderly events (event.step digests s)

instance decidableAllOrderly : ∀ (events : List Event) (s : State), Decidable (Event.AllOrderly digests events s)
  | [], _ => instDecidableTrue
  | event :: events, s => @instDecidableAnd _ _ _ (decidableAllOrderly events (event.step digests s))

/-- Commands have ids of their own, and each is tracked. -/
structure State.Tracked (s : State) : Prop where
  good : Good s.db.books s.db.projections
  ids : (s.commands.map (·.intent.id)).Nodup
  tracked : ∀ c ∈ s.commands, c.Tracked s.db.books

theorem State.Tracked.empty : State.empty.Tracked := ⟨Good.empty, List.nodup_nil, fun c hc => (by cases hc)⟩

theorem State.Tracked.on {s : State} (h : s.Tracked) {t : Nat} {f : Command → Command}
    (hf : ∀ {c : Command}, c.Tracked s.db.books → (f c).Tracked s.db.books) (intent : ∀ c, (f c).intent = c.intent) :
    (s.on t f).Tracked := by
  refine ⟨h.good, ?_, State.on_all h.tracked fun c _ tracked => hf tracked⟩
  rw [s.on_names t intent]
  exact h.ids

/-- The other commands do not notice an operation that reserves none of their ids. -/
theorem State.Tracked.run {s : State} (h : s.Tracked) (op : Op) {c : Command} (hc : c ∈ s.commands)
    (bound : Bound (op.run digests s.db).books c.intent) (other : c.turnedAway → reservedId op ≠ some c.intent.id) :
    c.Tracked (op.run digests s.db).books := by
  apply (h.tracked c hc).carried (op.step digests h.good).moves.carried bound
  intro away
  exact ((h.tracked c hc).refused away).run h.good (other away)

theorem State.Tracked.submit {s : State} (h : s.Tracked) {intent : ReserveRequest} (fresh : s.fresh intent.id = true) :
    State.Tracked { s with commands := s.commands ++ [.new intent] } := by
  simp only [State.fresh, State.names, Bool.and_eq_true, Bool.not_eq_true', List.any_eq_false, beq_iff_eq,
    Option.isNone_iff_eq_none] at fresh
  obtain ⟨unnamed, absent⟩ := fresh
  refine ⟨h.good, ?_, fun c hc => ?_⟩
  · rw [List.map_append, List.nodup_append]
    refine ⟨h.ids, List.nodup_singleton _, fun id hid id' hid' => ?_⟩
    obtain ⟨c, hc, rfl⟩ := List.mem_map.1 hid
    rw [List.map_singleton, List.mem_singleton] at hid'
    rw [hid']
    exact unnamed c hc
  · rcases List.mem_append.1 hc with hc | hc
    · exact h.tracked c hc
    · rw [List.mem_singleton.1 hc]
      exact .new (Table.get?_none_iff.1 absent)

theorem State.Tracked.serve {s : State} (h : s.Tracked) {t n : Nat} {call : Call}
    (orderly : (Event.serve t n call).Orderly s) : (s.serve t n call).Tracked := by
  unfold State.serve
  split
  · rename_i c sent found
    obtain ⟨hc, hn⟩ := State.request?_some found
    have mem := List.mem_of_getElem? hc
    have ran : (Tx.commit (sent.message.serve call c.intent) s.db).2 =
        (sent.message.op call c.intent).run sampleDigests s.db :=
      sent.message.serve_run call c.intent s.db
    have moved := (sent.message.op call c.intent).step sampleDigests h.good
    rw [← ran] at moved
    -- every command is tracked in the new books, as it was before the answer
    have all : ∀ x ∈ s.commands, x.Tracked (Tx.commit (sent.message.serve call c.intent) s.db).2.books := by
      intro x hx
      by_cases same : x.intent.id = c.intent.id
      · obtain rfl : x = c := List.inj_on_of_nodup_map h.ids hx mem same
        rw [ran]
        refine h.run sampleDigests _ hx (Message.serve_bound h.good (h.tracked x hx).bound) fun away => ?_
        rw [Message.op_reserves]
        split
        · rename_i reserves
          exact absurd away (orderly (x, sent) found reserves)
        · simp
      · have other : reservedId (sent.message.op call c.intent) ≠ some x.intent.id := by
          rw [Message.op_reserves]
          split
          · exact fun e => same (Option.some.inj e).symm
          · simp
        rw [ran]
        exact h.run sampleDigests _ hx ((h.tracked x hx).bound.run h.good other) fun _ => other
    refine ⟨moved.good h.good, ?_, State.on_all (s := s) all ?_⟩
    · exact (s.on_names t fun c => c.record_intent n (decode (Tx.commit (sent.message.serve _ _) s.db).1)) ▸ h.ids
    · intro x hx tracked
      obtain rfl : c = x := Option.some.inj (hc.symm.trans hx)
      apply tracked.record
      · intro answered answer state
        rcases Tx.commit_cases (sent.message.serve call c.intent) s.db with
          ⟨row, s', served, committed⟩ | ⟨e, -, failed⟩
        · rw [committed] at answer ⊢
          obtain rfl : row = answered := Except.ok.inj answer
          obtain ⟨found, hid⟩ := serve_found h.good served
          exact ⟨row, found, hid, state⟩
        · rw [failed] at answer
          cases answer
      · intro sent' hs hm status answer
        obtain rfl : sent = sent' := Option.some.inj (hn.symm.trans hs)
        exact serve_refused h.good (h.tracked c mem).bound hm answer
  · exact h

theorem Event.step_tracked (event : Event) {s : State} (h : s.Tracked) (orderly : event.Orderly s) :
    (event.step digests s).Tracked := by
  cases event with
  | submit intent =>
    rw [Event.step]
    split
    · exact h.submit ‹_›
    · exact h
  | take t expired => exact h.on (fun tr => tr.take expired) fun c => c.take_intent expired
  | receive t k expired => exact h.on (fun tr => tr.receive k expired) fun c => c.receive_intent k expired
  | lose t expired => exact h.on (fun tr => tr.lose expired) fun c => c.lose_intent expired
  | respond t => exact h.on (fun tr => tr.respond) Command.respond_intent
  | leave t => exact h.on (fun tr => tr.leave) Command.leave_intent
  | collect t => exact h.on (fun tr => tr.collect) Command.collect_intent
  | serve t n call => exact h.serve orderly
  | control op =>
    rw [Event.step]
    split
    · exact h
    · rename_i unnamed
      refine ⟨(op.step digests h.good).good h.good, h.ids, fun c hc => ?_⟩
      have other : reservedId op ≠ some c.intent.id := by
        intro e
        apply unnamed
        rw [e]
        simp only [Option.any_some, State.names, List.any_eq_true, beq_iff_eq]
        exact ⟨c, hc, rfl⟩
      exact h.run digests op hc ((h.tracked c hc).bound.run h.good other) fun _ => other

theorem Event.run_tracked (events : List Event) {s : State} (h : s.Tracked)
    (orderly : Event.AllOrderly digests events s) :
    (Event.run digests events s).Tracked := by
  induction events generalizing s with
  | nil => exact h
  | cons event events ih => exact ih (event.step_tracked digests h orderly.1) orderly.2

/-! ## Finished commands -/

def Phase.recovered : Phase → Bool
  | .finished (some (.ok _)) => true
  | _ => false

theorem Phase.recovered_iff {p : Phase} : p.recovered = true ↔ p = .finished (some (.ok ())) := by
  constructor
  · intro h
    unfold Phase.recovered at h
    split at h
    · rfl
    · cases h
  · rintro rfl
    rfl

theorem take_finished {c : Command} {o : Option (Except Nat Unit)} (done : c.phase = .finished o) (expired : Bool) :
    c.take expired = c := by
  rw [Command.take, done]

theorem receive_finished {c : Command} {o : Option (Except Nat Unit)} (done : c.phase = .finished o) (k : Nat)
    (expired : Bool) :
    c.receive k expired = c := by
  rw [Command.receive, done]

theorem lose_finished {c : Command} {o : Option (Except Nat Unit)} (done : c.phase = .finished o) (expired : Bool) :
    c.lose expired = c := by
  rw [Command.lose, done]

theorem respond_finished {c : Command} {o : Option (Except Nat Unit)}
    (done : c.phase = .finished o) : c.respond = c := by
  rw [Command.respond, done]

theorem leave_phase (c : Command) : c.leave.phase = c.phase := by
  unfold Command.leave
  split <;> rfl

theorem collect_phase (c : Command) : c.collect.phase = c.phase := by
  unfold Command.collect
  split <;> rfl

/-- A command that is finished stays finished with what its recovery concluded. -/
def Ended (s : State) (intent : ReserveRequest) (o : Option (Except Nat Unit)) : Prop :=
  ∃ c ∈ s.commands, c.intent = intent ∧ c.phase = .finished o

theorem Ended.on {s : State} {intent : ReserveRequest} {o : Option (Except Nat Unit)} (h : Ended s intent o) (t : Nat)
    {f : Command → Command} (hf : ∀ c, c.phase = .finished o → (f c).phase = .finished o)
    (same : ∀ c, (f c).intent = c.intent) : Ended (s.on t f) intent o := by
  obtain ⟨c, hc, hi, done⟩ := h
  obtain ⟨i, hi'⟩ := List.mem_iff_getElem?.1 hc
  have kept : (s.on t f).commands[i]? = some (if t = i then f c else c) := by
    rw [show (s.on t f).commands = s.commands.modify t f from rfl, List.getElem?_modify, hi']
    rfl
  refine ⟨_, List.mem_of_getElem? kept, ?_⟩
  split
  · exact ⟨(same c).trans hi, hf c done⟩
  · exact ⟨hi, done⟩

theorem Event.step_ended (event : Event) {s : State} {intent : ReserveRequest} {o : Option (Except Nat Unit)}
    (h : Ended s intent o) : Ended (event.step digests s) intent o := by
  cases event with
  | submit intent' =>
    rw [Event.step]
    split
    · obtain ⟨c, hc, rest⟩ := h
      exact ⟨c, List.mem_append_left _ hc, rest⟩
    · exact h
  | take t expired => exact h.on t (fun c done => by rw [take_finished done]; exact done) fun c => c.take_intent expired
  | receive t k expired =>
    exact h.on t (fun c done => by rw [receive_finished done]; exact done) fun c => c.receive_intent k expired
  | lose t expired => exact h.on t (fun c done => by rw [lose_finished done]; exact done) fun c => c.lose_intent expired
  | respond t => exact h.on t (fun c done => by rw [respond_finished done]; exact done) Command.respond_intent
  | leave t => exact h.on t (fun c done => (leave_phase c).trans done) Command.leave_intent
  | collect t => exact h.on t (fun c done => (collect_phase c).trans done) Command.collect_intent
  | serve t n call =>
    rw [Event.step, State.serve]
    split
    · exact h.on t (fun c done => done) fun c => c.record_intent n _
    · exact h
  | control op =>
    rw [Event.step]
    split
    · exact h
    · exact h

theorem Event.run_ended (events : List Event) {s : State} {intent : ReserveRequest} {o : Option (Except Nat Unit)}
    (h : Ended s intent o) : Ended (Event.run digests events s) intent o := by
  induction events generalizing s with
  | nil => exact h
  | cons event events ih => exact ih (event.step_ended digests h)

/-- A recovery that returned leaves no hold, in any later state of a run in which no reserve of the command
arrives after the refusal of its recovery. -/
theorem Event.run_recovers (events later : List Event)
    (orderly : Event.AllOrderly digests (events ++ later) State.empty) {c : Command}
    (hc : c ∈ (Event.run digests events State.empty).commands) (done : c.phase = .finished (some (.ok ()))) :
    ∀ r ∈ (Event.run digests (events ++ later) State.empty).db.books.reservations, r.id = c.intent.id →
      r.state = .released ∨ r.state = .dispatched ∨ r.state = .settled ∨ r.state = .waived := by
  intro r hr hid
  have tracked := Event.run_tracked digests (events ++ later) State.Tracked.empty orderly
  have ended : Ended (Event.run digests (events ++ later) State.empty) c.intent (some (.ok ())) := by
    rw [Event.run_append]
    exact Event.run_ended digests later ⟨c, hc, rfl, done⟩
  obtain ⟨c', hc', intent, done'⟩ := ended
  have t := tracked.tracked c' hc'
  have unheld : r.state ≠ .reserved := by
    rcases t.recovered done' with past | away
    · exact past.unheld r hr (hid.trans (congrArg ReserveRequest.id intent.symm))
    · exact absurd (hid.trans (congrArg ReserveRequest.id intent.symm)) (t.refused away r hr)
  cases state : r.state with
  | reserved => exact absurd state unheld
  | dispatched => exact .inr (.inl rfl)
  | settled => exact .inr (.inr (.inl rfl))
  | released => exact .inl rfl
  | waived => exact .inr (.inr (.inr rfl))

/-! ## A sample run -/

/-- A project without credit, whose balance is enforced; the first reserve is slow, and its recovery is
refused. -/
def sampleRefused : List Event :=
  (sampleSetup.take 4 ++ [Op.updateBalancePolicy "project" true]).map .control ++
    [.submit (sampleRequest "r1"), .take 0 false, .lose 0 false, .respond 0, .serve 0 0 (sampleCall 2),
      .receive 0 0 false]

/-- Credit arrives, and then the slow reserve. -/
def sampleLate : List Event :=
  [.control (.capturePayment (sampleCall 3) "order" ⟨"payment", "manual", "reference"⟩ "capture"),
    .serve 0 1 (sampleCall 4)]

theorem sampleRefused_recovered : ∃ c ∈ (Event.run sampleDigests sampleRefused State.empty).commands,
    c.intent.id = "r1" ∧ c.phase = .finished (some (.ok ())) := by
  have facts : (Event.run sampleDigests sampleRefused State.empty).commands.any
      (fun c => c.intent.id == "r1" && c.phase.recovered) = true := by decide +kernel
  obtain ⟨c, hc, h⟩ := List.any_eq_true.1 facts
  rw [Bool.and_eq_true, beq_iff_eq] at h
  exact ⟨c, hc, h.1, Phase.recovered_iff.1 h.2⟩

theorem sampleRefused_recovers : ∃ c ∈ (Event.run sampleDigests sampleRefused State.empty).commands,
    c.intent.id = "r1" ∧
    ∀ r ∈ (Event.run sampleDigests (sampleRefused ++ sampleLate.take 1) State.empty).db.books.reservations,
      r.id = c.intent.id →
      r.state = .released ∨ r.state = .dispatched ∨ r.state = .settled ∨ r.state = .waived := by
  obtain ⟨c, hc, hid, done⟩ := sampleRefused_recovered
  exact ⟨c, hc, hid, Event.run_recovers sampleDigests sampleRefused (sampleLate.take 1) (by decide +kernel) hc done⟩

theorem sampleLate_orphan : ∃ c ∈ (Event.run sampleDigests sampleRefused State.empty).commands,
    c.phase = .finished (some (.ok ())) ∧
      ∃ r ∈ (Event.run sampleDigests (sampleRefused ++ sampleLate) State.empty).db.books.reservations,
        r.id = c.intent.id ∧ r.state = .reserved := by
  obtain ⟨c, hc, hid, done⟩ := sampleRefused_recovered
  have held : (Event.run sampleDigests (sampleRefused ++ sampleLate) State.empty).db.books.reservations.rows.any
      (fun r => r.id == "r1" && r.state == .reserved) = true := by decide +kernel
  obtain ⟨r, hr, h⟩ := List.any_eq_true.1 held
  rw [Bool.and_eq_true, beq_iff_eq, beq_iff_eq] at h
  exact ⟨c, hc, done, r, hr, h.1.trans hid.symm, h.2⟩

end System

end Xscope.Admission

/-
Polling with an acknowledgement. One call does what an acknowledgement and then a poll do, and a call
that meets others between its two readings of the cursor ends as one run whole at one of them.
-/
import Xscope.Feed.Cursor

namespace Xscope

variable {digests : Digests}

/-! ## A call at one reading -/

/-- A poll run whole on one reading of the cursor and the events: how it ends, and the cursor it leaves. -/
def polledAt (o : Outbox) (row : BillingConsumer) (request : PollRequest) : Outcome × BillingConsumer :=
  match page o row request with
  | .error e => (.failed e, row)
  | .ok result =>
    let next := { row with acknowledged := result.acknowledged, delivered := result.delivered }
    (.polled next result.response, next)

/-- An acknowledgement run whole on one reading of the cursor. -/
def ackedAt (row : BillingConsumer) (request : AckRequest) : Outcome × BillingConsumer :=
  match acknowledged row (some request) with
  | .error e => (.failed e, row)
  | .ok n =>
    let next := { row with acknowledged := n }
    (.acked next, next)

section Readings

variable {o : Outbox} {row : BillingConsumer} {request : PollRequest} {ack : AckRequest} {limit : Nat}

theorem polledAt_error {e : ServiceError} (h : page o row request = .error e) :
    polledAt o row request = (.failed e, row) := by
  unfold polledAt
  rw [h]

theorem polledAt_ok {p : Page} (h : page o row request = .ok p) : polledAt o row request =
    (.polled { row with acknowledged := p.acknowledged, delivered := p.delivered } p.response,
      { row with acknowledged := p.acknowledged, delivered := p.delivered }) := by
  unfold polledAt
  rw [h]

/-- A page that moves nothing leaves the cursor that was read. -/
theorem polledAt_unchanged {p : Page} (h : page o row request = .ok p) (same : p.changed row = false) :
    polledAt o row request = (.polled row p.response, row) := by
  have fields : p.acknowledged = row.acknowledged ∧ p.delivered = row.delivered := by simpa [Page.changed] using same
  rw [polledAt_ok h, fields.1, fields.2]

theorem polledAt_key (o : Outbox) (row : BillingConsumer) (request : PollRequest) :
    key (polledAt o row request).2 = key row := by
  cases h : page o row request with
  | error e => rw [polledAt_error h]
  | ok p => rw [polledAt_ok h]; rfl

/-- A poll that fails leaves the cursor as it was. -/
theorem polledAt_failed {e : ServiceError} (h : (polledAt o row request).1 = .failed e) :
    (polledAt o row request).2 = row := by
  cases hp : page o row request with
  | error e' => rw [polledAt_error hp]
  | ok p => rw [polledAt_ok hp] at h; cases h

theorem polledAt_forward (ordered : row.acknowledged ≤ row.delivered) :
    row.acknowledged ≤ (polledAt o row request).2.acknowledged ∧
      row.delivered ≤ (polledAt o row request).2.delivered := by
  cases h : page o row request with
  | error e =>
    rw [polledAt_error h]
    exact ⟨le_rfl, le_rfl⟩
  | ok p =>
    rw [polledAt_ok h]
    exact ⟨(acknowledged_bounds (page_ok h).1 ordered).1, (page_delivered h).1⟩

/-- A page without an acknowledgement is never refused. -/
theorem page_none (o : Outbox) (row : BillingConsumer) (limit : Nat) : ∃ p, page o row ⟨limit, none⟩ = .ok p := ⟨_, rfl⟩

/-- A refused acknowledgement refuses the poll that carries it, with the same error. -/
theorem polledAt_refused {e : ServiceError} (h : acknowledged row (some ack) = .error e) :
    polledAt o row ⟨limit, some ack⟩ = (.failed e, row) := by
  apply polledAt_error
  unfold page
  rw [h]
  rfl

/-- A poll that carries an acknowledgement is a poll of the cursor that the acknowledgement leaves. -/
theorem polledAt_accepted {n : Int} (h : acknowledged row (some ack) = .ok n) :
    polledAt o row ⟨limit, some ack⟩ = polledAt o { row with acknowledged := n } ⟨limit, none⟩ := by
  have pages : page o row ⟨limit, some ack⟩ = page o { row with acknowledged := n } ⟨limit, none⟩ := by
    unfold page
    rw [h]
    rfl
  obtain ⟨p, hp⟩ := page_none o { row with acknowledged := n } limit
  rw [polledAt_ok (pages.trans hp), polledAt_ok hp]

end Readings

/-! ## Calls with nothing between their statements -/

namespace Feed

def pollCall (feed : Feed) (process : Nat) (project name : String) (request : PollRequest) : Feed :=
  ((feed.poll process project name request).next process).next process

def ackCall (feed : Feed) (process : Nat) (project name : String) (request : AckRequest) : Feed :=
  (feed.ack process project name request).next process

/-- A call ended and left a cursor, and nothing else changed. -/
structure Ended (feed feed' : Feed) (left : Outcome × BillingConsumer) : Prop where
  done : feed'.done = left.1 :: feed.done
  consumers : ∀ k, feed'.consumers.get? k = if key left.2 = k then some left.2 else feed.consumers.get? k
  db : feed'.db = feed.db

section Calls

variable {feed : Feed} {process : Nat} {row cur : BillingConsumer}

@[simp] theorem finish_call (feed : Feed) (process : Nat) (outcome : Outcome) :
    (feed.finish process outcome).calls process = none :=
  if_pos rfl

@[simp] theorem setCall_call (feed : Feed) (process : Nat) (call : Option Pending) :
    (feed.setCall process call).calls process = call :=
  if_pos rfl

theorem next_none (h : feed.calls process = none) : feed.next process = feed := by
  unfold next
  rw [h]

theorem register_stored (stored : feed.consumers.get? (key row) = some cur) : feed.register row = feed := by
  unfold register
  rw [Table.insert?_none_iff.2 ⟨cur, stored⟩]
  rfl

/-- A call that leaves the cursor it found changes no cursor. -/
theorem ended_same {k : String × String} {outcome : Outcome} (stored : feed.consumers.get? k = some row)
    (process : Nat) :
    feed.Ended (feed.finish process outcome) (outcome, row) := by
  refine ⟨rfl, fun k' => ?_, rfl⟩
  have hk := Table.get?_key stored
  show feed.consumers.get? k' = if key row = k' then some row else feed.consumers.get? k'
  split
  · rename_i same
    rw [← same, hk]
    exact stored
  · rfl

theorem ended_update {next : BillingConsumer} {outcome : Outcome} (stored : feed.consumers.get? (key row) = some cur)
    (keyed : key next = key row) (process : Nat) :
    feed.Ended ((feed.update next).finish process outcome) (outcome, next) := by
  refine ⟨rfl, fun k => ?_, rfl⟩
  show (feed.consumers.put next).get? k = _
  rw [Table.get?_put_at keyed stored, keyed]

/-- The optimistic page ends the call as one run whole at this reading, or goes on to the lock. -/
theorem pageUnlocked_cases (stored : feed.consumers.get? (key row) = some cur) (process : Nat) (request : PollRequest) :
    (∃ outcome, polledAt feed.db.outbox row request = (outcome, row) ∧
      feed.pageUnlocked process row request = feed.finish process outcome) ∨
    feed.pageUnlocked process row request = feed.setCall process (some (.locking row request)) := by
  unfold Feed.pageUnlocked
  cases hp : page feed.db.outbox row request with
  | error e => exact .inl ⟨_, polledAt_error hp, rfl⟩
  | ok result =>
    simp only
    split
    · exact .inr rfl
    · rename_i same
      refine .inl ⟨_, polledAt_unchanged hp (by simpa using same), ?_⟩
      rw [register_stored stored]

/-- The locked page ends the call as one run whole at the second reading. -/
theorem pageLocked_ended (stored : feed.consumers.get? (key row) = some cur) (process : Nat) (request : PollRequest) :
    feed.Ended (feed.pageLocked process row request) (polledAt feed.db.outbox cur request) := by
  have hk : key cur = key row := Table.get?_key stored
  have stored' : feed.consumers.get? (key cur) = some cur := by rw [hk]; exact stored
  unfold Feed.pageLocked
  rw [stored]
  simp only [Option.getD_some]
  cases hp : page feed.db.outbox cur request with
  | error e =>
    rw [polledAt_error hp]
    exact ended_same stored process
  | ok result =>
    simp only
    rw [register_stored stored']
    split
    · rw [polledAt_ok hp]
      refine ended_update stored' ?_ process
      rfl
    · rename_i same
      rw [polledAt_unchanged hp (by simpa using same)]
      exact ended_same stored process

theorem ackLocked_ended (stored : feed.consumers.get? (key row) = some cur) (process : Nat) (request : AckRequest) :
    feed.Ended (feed.ackLocked process row request) (ackedAt cur request) := by
  unfold Feed.ackLocked ackedAt
  rw [stored]
  simp only
  cases acknowledged cur (some request) with
  | error e => exact ended_same stored process
  | ok n =>
    simp only
    split
    · rename_i same
      rw [same]
      exact ended_same stored process
    · have keyed : key cur = key row := Table.get?_key stored
      refine ended_update stored ?_ process
      exact keyed

variable {project name account : String}

theorem poll_registered {request : PollRequest} (named : identifier name = true)
    (limits : 1 ≤ request.limit ∧ request.limit ≤ 100) (owned : feed.accountId project = .ok account)
    (registered : feed.consumers.get? (account, name) = some row) :
    feed.poll process project name request = feed.setCall process (some (.polled row request)) := by
  unfold Feed.poll
  rw [if_neg (by rw [named]; simp [limits]), owned]
  simp only [registered, Option.getD_some]

/-- A poll with nothing between its statements is a poll run whole at one reading. -/
theorem pollCall_ended {request : PollRequest} (named : identifier name = true)
    (limits : 1 ≤ request.limit ∧ request.limit ≤ 100) (owned : feed.accountId project = .ok account)
    (registered : feed.consumers.get? (account, name) = some row) :
    feed.Ended (feed.pollCall process project name request) (polledAt feed.db.outbox row request) := by
  have hk : key row = (account, name) := Table.get?_key registered
  have stored : feed.consumers.get? (key row) = some row := by rw [hk]; exact registered
  let called := feed.setCall process (some (.polled row request))
  have first : (feed.poll process project name request).next process = called.pageUnlocked process row request := by
    rw [poll_registered named limits owned registered]
    simp [Feed.next, called]
  unfold pollCall
  rw [first]
  have stored' : called.consumers.get? (key row) = some row := stored
  rcases pageUnlocked_cases stored' process request with ⟨outcome, ran, h⟩ | h
  · rw [h, next_none (finish_call called process outcome), show polledAt feed.db.outbox row request =
      (outcome, row) from ran]
    have ended : called.Ended (called.finish process outcome) (outcome, row) := ended_same stored' process
    exact ⟨ended.done, ended.consumers, ended.db⟩
  · have second : (called.setCall process (some (.locking row request))).next process =
        (called.setCall process (some (.locking row request))).pageLocked process row request := by
      simp [Feed.next]
    rw [h, second]
    have locked : (called.setCall process (some (.locking row request))).consumers.get? (key row) = some row := stored
    have ended := pageLocked_ended locked process request
    exact ⟨ended.done, ended.consumers, ended.db⟩

/-- A first poll that delivers something registers the cursor where it ends. -/
theorem pollCall_first (process : Nat) {request : PollRequest} {p : Page} (named : identifier name = true)
    (limits : 1 ≤ request.limit ∧ request.limit ≤ 100) (owned : feed.accountId project = .ok account)
    (absent : feed.consumers.get? (account, name) = none)
    (paged : page feed.db.outbox (newConsumer account name) request = .ok p)
    (changed : p.changed (newConsumer account name) = true) :
    let polled := feed.pollCall process project name request
    polled.consumers.get? (account, name) = some ⟨account, name, p.acknowledged, p.delivered⟩ ∧
      polled.db = feed.db := by
  intro polled
  let row := newConsumer account name
  let next : BillingConsumer := { row with acknowledged := p.acknowledged, delivered := p.delivered }
  let called := feed.setCall process (some (.polled row request))
  let waiting := called.setCall process (some (.locking row request))
  have started : feed.poll process project name request = called := by
    unfold Feed.poll
    rw [if_neg (by rw [named]; simp [limits]), owned]
    simp only [absent, Option.getD_none]
    rfl
  have unlocked : called.next process = waiting := by
    have step : called.next process = called.pageUnlocked process row request := by simp [Feed.next, called]
    rw [step]
    unfold Feed.pageUnlocked
    rw [show page called.db.outbox row request = .ok p from paged]
    exact if_pos changed
  -- under the lock the row is still missing, and is inserted before it is updated
  have missing : waiting.consumers.get? (key row) = none := absent
  have locked : waiting.next process = ((waiting.register row).update next).finish process
      (.polled next p.response) := by
    have step : waiting.next process = waiting.pageLocked process row request := by simp [Feed.next, waiting]
    rw [step]
    unfold Feed.pageLocked
    rw [missing, Option.getD_none]
    dsimp only
    rw [show page waiting.db.outbox row request = .ok p from paged]
    exact if_pos changed
  have whole : polled = ((waiting.register row).update next).finish process (.polled next p.response) := by
    show ((feed.poll process project name request).next process).next process = _
    rw [started, unlocked, locked]
  have registered : (waiting.register row).consumers.get? (key row) = some row := by
    rw [register_get?, missing]
    exact if_pos rfl
  have keyed : key next = key row := rfl
  have ended : (waiting.register row).Ended (((waiting.register row).update next).finish process
    (.polled next p.response))
      (.polled next p.response, next) := ended_update registered keyed process
  rw [whole]
  refine ⟨?_, rfl⟩
  rw [ended.consumers]
  exact if_pos rfl

/-- An acknowledgement with nothing between its statements is one run whole at one reading. -/
theorem ackCall_ended {request : AckRequest} (named : identifier name = true)
    (owned : feed.accountId project = .ok account) (registered : feed.consumers.get? (account, name) = some row) :
    feed.Ended (feed.ackCall process project name request) (ackedAt row request) := by
  have hk : key row = (account, name) := Table.get?_key registered
  have stored : feed.consumers.get? (key row) = some row := by rw [hk]; exact registered
  unfold ackCall Feed.ack
  rw [if_neg (by simp [named]), owned]
  simp only [registered]
  cases ha : acknowledged row (some request) with
  | error e =>
    simp only
    rw [next_none (finish_call feed process _)]
    unfold ackedAt
    rw [ha]
    exact ended_same registered process
  | ok n =>
    simp only
    split
    · rename_i same
      rw [next_none (finish_call feed process _)]
      unfold ackedAt
      rw [ha, same]
      exact ended_same registered process
    · have locked : (feed.setCall process (some (.acking row request))).next process =
          (feed.setCall process (some (.acking row request))).ackLocked process row request := by
        simp [Feed.next]
      rw [locked]
      have waiting : (feed.setCall process (some (.acking row request))).consumers.get? (key row) = some row := stored
      have ended := ackLocked_ended waiting process request
      exact ⟨ended.done, ended.consumers, ended.db⟩

end Calls

/-! ## Names of consumers -/

/-- A consumer that is registered, or about to be, has an identifier for its name. -/
structure Named (feed : Feed) : Prop where
  consumers : ∀ row ∈ feed.consumers, identifier row.consumer = true
  calls : ∀ p call, feed.calls p = some call → identifier call.row.consumer = true

section Names

variable {feed : Feed} {process : Nat} {row : BillingConsumer}

theorem Named.setCall (n : feed.Named) {call : Option Pending}
    (h : ∀ c, call = some c → identifier c.row.consumer = true) :
    (feed.setCall process call).Named := by
  refine ⟨n.consumers, fun p c hc => ?_⟩
  change (if p = process then call else feed.calls p) = some c at hc
  split at hc
  · exact h c hc
  · exact n.calls p c hc

theorem Named.finish (n : feed.Named) (outcome : Outcome) : (feed.finish process outcome).Named := by
  have idle : (feed.setCall process none).Named := n.setCall fun c h => by cases h
  exact ⟨idle.consumers, idle.calls⟩

theorem Named.register (n : feed.Named) (h : identifier row.consumer = true) : (feed.register row).Named := by
  refine ⟨fun x hx => ?_, n.calls⟩
  rcases Table.mem_insert?_getD hx with rfl | hx
  · exact h
  · exact n.consumers x hx

theorem Named.update (n : feed.Named) (h : identifier row.consumer = true) : (feed.update row).Named := by
  refine ⟨fun x hx => ?_, n.calls⟩
  rcases Table.mem_put.1 hx with ⟨hx, -⟩ | ⟨rfl, -⟩
  · exact n.consumers x hx
  · exact h

theorem Named.stored (n : feed.Named) {k : String × String} (h : feed.consumers.get? k = some row) :
    identifier row.consumer = true :=
  n.consumers row (Table.get?_mem h)

theorem Named.poll (n : feed.Named) (project name : String) (request : PollRequest) :
    (feed.poll process project name request).Named := by
  unfold Feed.poll
  split
  · exact n.finish _
  · rename_i checked
    have named : identifier name = true := by simpa using (not_or.1 checked).1
    cases feed.accountId project with
    | error e => exact n.finish _
    | ok account =>
      refine n.setCall fun c h => ?_
      cases h
      show identifier ((feed.consumers.get? (account, name)).getD (newConsumer account name)).consumer = true
      cases hg : feed.consumers.get? (account, name) with
      | none => exact named
      | some row => exact n.stored hg

theorem Named.ack (n : feed.Named) (project name : String) (request : AckRequest) :
    (feed.ack process project name request).Named := by
  unfold Feed.ack
  split
  · exact n.finish _
  · cases feed.accountId project with
    | error e => exact n.finish _
    | ok account =>
      simp only
      cases hg : feed.consumers.get? (account, name) with
      | none => exact n.finish _
      | some row =>
        simp only
        cases Xscope.acknowledged row (some request) with
        | error e => exact n.finish _
        | ok next =>
          simp only
          split
          · exact n.finish _
          · refine n.setCall fun c h => ?_
            cases h
            exact n.stored hg

theorem Named.pageUnlocked (n : feed.Named) (h : identifier row.consumer = true) (request : PollRequest) :
    (feed.pageUnlocked process row request).Named := by
  unfold Feed.pageUnlocked
  cases page feed.db.outbox row request with
  | error e => exact n.finish _
  | ok result =>
    simp only
    split
    · refine n.setCall fun c hc => ?_
      cases hc
      exact h
    · exact (n.register h).finish _

theorem Named.pageLocked (n : feed.Named) (h : identifier row.consumer = true) (request : PollRequest) :
    (feed.pageLocked process row request).Named := by
  have current : identifier ((feed.consumers.get? (key row)).getD row).consumer = true := by
    cases hg : feed.consumers.get? (key row) with
    | none => exact h
    | some cur => exact n.stored hg
  unfold Feed.pageLocked
  simp only
  cases page feed.db.outbox ((feed.consumers.get? (key row)).getD row) request with
  | error e => exact n.finish _
  | ok result =>
    simp only
    split
    · refine Named.finish (Named.update (n.register current) ?_) _
      exact current
    · exact (n.register current).finish _

theorem Named.ackLocked (n : feed.Named) (row : BillingConsumer) (request : AckRequest) :
    (feed.ackLocked process row request).Named := by
  unfold Feed.ackLocked
  cases hg : feed.consumers.get? (key row) with
  | none => exact n.finish _
  | some cur =>
    simp only
    cases Xscope.acknowledged cur (some request) with
    | error e => exact n.finish _
    | ok next =>
      simp only
      split
      · exact n.finish _
      · have named := n.stored hg
        refine Named.finish (Named.update n ?_) _
        exact named

theorem Named.next (n : feed.Named) (process : Nat) : (feed.next process).Named := by
  unfold Feed.next
  cases hc : feed.calls process with
  | none => exact n
  | some call =>
    have named := n.calls process call hc
    cases call with
    | polled row request => exact n.pageUnlocked named request
    | locking row request => exact n.pageLocked named request
    | acking row request => exact n.ackLocked row request

end Names

end Feed

theorem FeedStep.runAll_named (steps : List FeedStep) {feed : Feed} (n : feed.Named) :
    (FeedStep.runAll digests steps feed).Named := by
  induction steps generalizing feed with
  | nil => exact n
  | cons step steps ih =>
    apply ih
    cases step with
    | write action => exact ⟨n.consumers, n.calls⟩
    | poll process project name request => exact n.poll project name request
    | ack process project name request => exact n.ack project name request
    | next process => exact n.next process

theorem Feed.Named.empty : Feed.empty.Named :=
  ⟨fun row h => absurd h (Table.not_mem_empty row), fun _ _ h => by cases h⟩

/-! ## Calls with others between their statements -/

/-- The process whose call a step starts or continues. -/
def FeedStep.process? : FeedStep → Option Nat
  | .write _ => none
  | .poll process _ _ _ | .ack process _ _ _ | .next process => some process

namespace Feed

section Others

variable {feed : Feed} {process other : Nat}

theorem setCall_other (h : other ≠ process) (call : Option Pending) :
    (feed.setCall other call).calls process = feed.calls process :=
  if_neg (Ne.symm h)

theorem finish_other (h : other ≠ process) (outcome : Outcome) :
    (feed.finish other outcome).calls process = feed.calls process :=
  if_neg (Ne.symm h)

theorem poll_other (h : other ≠ process) (project name : String) (request : PollRequest) :
    (feed.poll other project name request).calls process = feed.calls process := by
  unfold Feed.poll
  split
  · exact finish_other h _
  · cases feed.accountId project with
    | error e => exact finish_other h _
    | ok account => exact setCall_other h _

theorem ack_other (h : other ≠ process) (project name : String) (request : AckRequest) :
    (feed.ack other project name request).calls process = feed.calls process := by
  unfold Feed.ack
  repeat' split
  all_goals first | exact finish_other h _ | exact setCall_other h _

theorem next_other (h : other ≠ process) : (feed.next other).calls process = feed.calls process := by
  unfold Feed.next
  cases feed.calls other with
  | none => rfl
  | some call =>
    cases call with
    | polled row request =>
      show (feed.pageUnlocked other row request).calls process = _
      unfold Feed.pageUnlocked
      repeat' split
      all_goals first | exact finish_other h _ | exact setCall_other h _
    | locking row request =>
      show (feed.pageLocked other row request).calls process = _
      unfold Feed.pageLocked
      simp only
      repeat' split
      all_goals exact finish_other h _
    | acking row request =>
      show (feed.ackLocked other row request).calls process = _
      unfold Feed.ackLocked
      repeat' split
      all_goals exact finish_other h _

end Others

end Feed

/-- The calls of a process go on only by its own steps. -/
theorem FeedStep.runAll_others {process : Nat} (steps : List FeedStep)
    (others : ∀ s ∈ steps, s.process? ≠ some process) (feed : Feed) :
    (FeedStep.runAll digests steps feed).calls process = feed.calls process := by
  induction steps generalizing feed with
  | nil => rfl
  | cons step steps ih =>
    have foreign : step.process? ≠ some process := others step List.mem_cons_self
    refine (ih (fun s hs => others s (List.mem_cons_of_mem _ hs)) _).trans ?_
    cases step with
    | write action => rfl
    | poll other project name request =>
      exact Feed.poll_other (fun same => foreign (congrArg some same)) project name request
    | ack other project name request =>
      exact Feed.ack_other (fun same => foreign (congrArg some same)) project name request
    | next other => exact Feed.next_other fun same => foreign (congrArg some same)

/-! ## Polling with an acknowledgement -/

section Combined

variable {feed : Feed} {process limit : Nat} {project name account : String} {row : BillingConsumer} {ack : AckRequest}

/-- The call that carries the acknowledgement against the acknowledgement and the poll after it. -/
theorem Feed.pollCall_ack (named : identifier name = true) (limits : 1 ≤ limit ∧ limit ≤ 100)
    (owned : feed.accountId project = .ok account) (registered : feed.consumers.get? (account, name) = some row) :
    let combined := feed.pollCall process project name ⟨limit, some ack⟩
    let first := feed.ackCall process project name ack
    let second := first.pollCall process project name ⟨limit, none⟩
    (∃ e, first.done = .failed e :: feed.done ∧ combined.done = .failed e :: feed.done ∧
      ∀ k, combined.consumers.get? k = feed.consumers.get? k ∧ first.consumers.get? k = feed.consumers.get? k) ∨
    ∃ acked outcome, first.done = .acked acked :: feed.done ∧ second.done = outcome :: first.done ∧
      combined.done = outcome :: feed.done ∧ ∀ k, combined.consumers.get? k = second.consumers.get? k := by
  intro combined first second
  have whole : feed.Ended combined (polledAt feed.db.outbox row ⟨limit, some ack⟩) :=
    pollCall_ended named limits owned registered
  have acks : feed.Ended first (ackedAt row ack) := ackCall_ended named owned registered
  have hk : key row = (account, name) := Table.get?_key registered
  have kept {k : String × String} : (if key row = k then some row else feed.consumers.get? k) =
      feed.consumers.get? k := by
    split
    · rename_i same
      rw [← same, hk, registered]
    · rfl
  cases ha : acknowledged row (some ack) with
  | error e =>
    have failed : ackedAt row ack = (.failed e, row) := by
      unfold ackedAt
      rw [ha]
    rw [polledAt_refused ha] at whole
    rw [failed] at acks
    exact .inl ⟨e, acks.done, whole.done, fun k => ⟨(whole.consumers k).trans kept, (acks.consumers k).trans kept⟩⟩
  | ok n =>
    let next : BillingConsumer := { row with acknowledged := n }
    have acked : ackedAt row ack = (.acked next, next) := by
      unfold ackedAt
      rw [ha]
    rw [polledAt_accepted ha] at whole
    rw [acked] at acks
    have keyed : key next = (account, name) := hk
    -- the poll that follows reads the cursor that the acknowledgement left
    have registered' : first.consumers.get? (account, name) = some next := by
      rw [acks.consumers]
      exact if_pos keyed
    have owned' : first.accountId project = .ok account := by
      show Feed.accountId ⟨first.db, _, _, _⟩ project = _
      rw [acks.db]
      exact owned
    have polls : first.Ended second (polledAt first.db.outbox next ⟨limit, none⟩) :=
      pollCall_ended named limits owned' registered'
    rw [acks.db] at polls
    refine .inr ⟨next, _, acks.done, polls.done, whole.done, fun k => ?_⟩
    have same : key (polledAt feed.db.outbox next ⟨limit, none⟩).2 = key next :=
      polledAt_key feed.db.outbox next ⟨limit, none⟩
    rw [whole.consumers, polls.consumers, acks.consumers, same]
    split
    · rfl
    · rfl

/-- A call that meets others between its two readings ends as one run whole at one of them. -/
theorem Feed.Sound.polled_between (s : feed.Sound digests) (named : identifier name = true) {request : PollRequest}
    (limits : 1 ≤ request.limit ∧ request.limit ≤ 100) (owned : feed.accountId project = .ok account)
    (registered : feed.consumers.get? (account, name) = some row) (between between' : List FeedStep)
    (others : ∀ step ∈ between ++ between', step.process? ≠ some process) :
    let read := FeedStep.runAll digests between (feed.poll process project name request)
    let paged := read.next process
    let moved := FeedStep.runAll digests between' paged
    (paged.done = (polledAt read.db.outbox row request).1 :: read.done ∧ (polledAt read.db.outbox row request).2 = row ∧
      paged.consumers = read.consumers ∧ paged.calls process = none) ∨
    (paged.consumers = read.consumers ∧ paged.done = read.done ∧
      ∃ cur, moved.consumers.get? (account, name) = some cur ∧
      moved.Ended (moved.next process) (polledAt moved.db.outbox cur request) ∧
      let left := (polledAt moved.db.outbox cur request).2
      (row.acknowledged ≤ cur.acknowledged ∧ cur.acknowledged ≤ left.acknowledged) ∧
      (row.delivered ≤ cur.delivered ∧ cur.delivered ≤ left.delivered)) := by
  intro read paged moved
  have foreign : ∀ step ∈ between, step.process? ≠ some process := fun step h => others step (List.mem_append_left _ h)
  have foreign' : ∀ step ∈ between', step.process? ≠ some process :=
    fun step h => others step (List.mem_append_right _ h)
  have hk : key row = (account, name) := Table.get?_key registered
  have polled : feed.poll process project name request = feed.setCall process (some (.polled row request)) :=
    poll_registered named limits owned registered
  have started : (feed.poll process project name request).calls process = some (.polled row request) := by
    rw [polled]
    exact setCall_call _ _ _
  have called : read.calls process = some (.polled row request) :=
    (FeedStep.runAll_others between foreign _).trans started
  have page : paged = read.pageUnlocked process row request := by
    show read.next process = _
    unfold Feed.next
    rw [called]
  obtain ⟨soundPoll, -⟩ := s.poll process project name request
  obtain ⟨soundRead, toRead⟩ := FeedStep.runAll_step between soundPoll
  have registeredPoll : (feed.poll process project name request).consumers.get? (account, name) = some row := by
    rw [polled]
    exact registered
  obtain ⟨first, hfirst, la, ld⟩ := toRead.cursors _ _ registeredPoll
  have stored : read.consumers.get? (key row) = some first := by rw [hk]; exact hfirst
  rcases pageUnlocked_cases stored process request with ⟨outcome, ran, h⟩ | h
  · -- nothing to move: the answer of the first reading
    have ended : paged = read.finish process outcome := page.trans h
    rw [ran, ended]
    exact .inl ⟨rfl, rfl, rfl, finish_call _ _ _⟩
  · -- the cursor is read again under its lock
    have locking : paged = read.setCall process (some (.locking row request)) := page.trans h
    obtain ⟨soundPaged, toPaged⟩ := soundRead.next process
    obtain ⟨soundMoved, toMoved⟩ := FeedStep.runAll_step between' soundPaged
    obtain ⟨cur, hcur, la', ld'⟩ := (toPaged.trans toMoved).cursors _ _ hfirst
    have waiting : moved.calls process = some (.locking row request) := by
      refine (FeedStep.runAll_others between' foreign' paged).trans ?_
      rw [locking]
      exact setCall_call _ _ _
    have second : moved.next process = moved.pageLocked process row request := by
      unfold Feed.next
      rw [waiting]
    have forward : cur.acknowledged ≤ (polledAt moved.db.outbox cur request).2.acknowledged ∧
        cur.delivered ≤ (polledAt moved.db.outbox cur request).2.delivered :=
      polledAt_forward (soundMoved.cursors cur (Table.get?_mem hcur)).ordered
    refine .inr ⟨by rw [locking]; rfl, by rw [locking]; rfl, cur, hcur, ?_, ⟨le_trans la la', forward.1⟩,
      le_trans ld ld', forward.2⟩
    rw [second]
    refine pageLocked_ended ?_ process request
    rw [hk]
    exact hcur

end Combined

/-- In every run a poll of a registered consumer that carries an acknowledgement answers, moves the cursor and
fails as the acknowledgement and the poll after it; one that fails leaves the cursors; and with others between
its readings it never moves a cursor backwards and ends as one run whole at one of the readings. -/
theorem FeedStep.runAll_combined (digests : Digests) (before : List FeedStep) (process limit : Nat)
    (project name account : String) (row : BillingConsumer) (ack : AckRequest) (limits : 1 ≤ limit ∧ limit ≤ 100) :
    let feed := FeedStep.runAll digests before Feed.empty
    let request : PollRequest := ⟨limit, some ack⟩
    let combined := feed.pollCall process project name request
    let first := feed.ackCall process project name ack
    let second := first.pollCall process project name ⟨limit, none⟩
    feed.accountId project = .ok account → feed.consumers.get? (account, name) = some row →
    ((∃ e, first.done = .failed e :: feed.done ∧ combined.done = .failed e :: feed.done ∧
        ∀ k, combined.consumers.get? k = feed.consumers.get? k ∧ first.consumers.get? k = feed.consumers.get? k) ∨
      ∃ acked outcome, first.done = .acked acked :: feed.done ∧ second.done = outcome :: first.done ∧
        combined.done = outcome :: feed.done ∧ ∀ k, combined.consumers.get? k = second.consumers.get? k) ∧
    feed.Ended combined (polledAt feed.db.outbox row request) ∧
    (∀ e, combined.done = .failed e :: feed.done → ∀ k, combined.consumers.get? k = feed.consumers.get? k) ∧
    ∀ between between' : List FeedStep, (∀ step ∈ between ++ between', step.process? ≠ some process) →
      let read := FeedStep.runAll digests between (feed.poll process project name request)
      let paged := read.next process
      let moved := FeedStep.runAll digests between' paged
      (paged.done = (polledAt read.db.outbox row request).1 :: read.done ∧
        (polledAt read.db.outbox row request).2 = row ∧
        paged.consumers = read.consumers ∧ paged.calls process = none) ∨
      (paged.consumers = read.consumers ∧ paged.done = read.done ∧
        ∃ cur, moved.consumers.get? (account, name) = some cur ∧
        moved.Ended (moved.next process) (polledAt moved.db.outbox cur request) ∧
        let left := (polledAt moved.db.outbox cur request).2
        (row.acknowledged ≤ cur.acknowledged ∧ cur.acknowledged ≤ left.acknowledged) ∧
        (row.delivered ≤ cur.delivered ∧ cur.delivered ≤ left.delivered)) := by
  intro feed request combined first second owned registered
  have s : feed.Sound digests := (FeedStep.runAll_step before .empty).1
  have named : identifier name = true := by
    have found : identifier row.consumer = true := (FeedStep.runAll_named before .empty).stored registered
    have hk : key row = (account, name) := Table.get?_key registered
    rw [show name = row.consumer from (congrArg Prod.snd hk).symm]
    exact found
  have whole : feed.Ended combined (polledAt feed.db.outbox row request) :=
    Feed.pollCall_ended named limits owned registered
  refine ⟨Feed.pollCall_ack named limits owned registered, whole, fun e failed k => ?_, fun between between' others =>
    s.polled_between named limits owned registered between between' others⟩
  -- the outcome of a failed call tells that its reading failed
  have outcome : (polledAt feed.db.outbox row request).1 = .failed e := (List.cons.inj (whole.done.symm.trans failed)).1
  rw [whole.consumers, polledAt_failed outcome]
  split
  · rename_i same
    rw [← same, show key row = (account, name) from Table.get?_key registered, registered]
  · rfl

/-- Two payments, each with its event. -/
def samplePaid : List FeedStep :=
  (sampleSetup ++ [Op.createOrder ⟨"second", "tenant", "project", ⟨"CNY", 1⟩, ""⟩,
    .capturePayment (sampleCall 2) "second" ⟨"payment-2", "manual", "reference-2"⟩ "capture-2"]).map fun op =>
      .write (.money op)

/-- The first poll of a consumer, for one event. -/
def sampleFirst : List FeedStep := [.poll 0 "project" "consumer" ⟨1, none⟩, .next 0, .next 0]

/-- With the acknowledgement of the delivered event the consumer is given the next one, as by an acknowledgement
and a poll. -/
theorem sample_combined :
    let feed := FeedStep.runAll sampleDigests (samplePaid ++ sampleFirst) Feed.empty
    let combined := feed.pollCall 0 "project" "consumer" ⟨10, some ⟨0, 1⟩⟩
    let first := feed.ackCall 0 "project" "consumer" ⟨0, 1⟩
    let second := first.pollCall 0 "project" "consumer" ⟨10, none⟩
    let cursor : BillingConsumer := ⟨"account-project", "consumer", 1, 2⟩
    ∃ acked response, response.data.map (·.sequence) = [2] ∧ first.done = .acked acked :: feed.done ∧
      second.done = .polled cursor response :: first.done ∧ combined.done = .polled cursor response :: feed.done ∧
      combined.consumers.get? (key cursor) = some cursor ∧ ∀ k, combined.consumers.get? k =
        second.consumers.get? k := by
  intro feed combined first second cursor
  let paid := FeedStep.runAll sampleDigests samplePaid Feed.empty
  let row : BillingConsumer := ⟨"account-project", "consumer", 0, 1⟩
  let later (low : Int) :=
    paid.db.outbox.events.select fun e => e.billingAccountId == "account-project" && decide (low < e.sequence)
  have order (low : Int) : (later low).reverse.Perm (later low) := List.reverse_perm _
  have owned : paid.accountId "project" = .ok "account-project" := by decide +kernel
  -- the first poll, of one event
  obtain ⟨p, paged, acknowledged, -, delivered⟩ :=
    page_listed paid.db.outbox (newConsumer "account-project" "consumer") ⟨1, none⟩ rfl (order 0) (by decide +kernel)
  have reached : p.delivered = 1 := delivered.trans (by decide +kernel)
  have changed : p.changed (newConsumer "account-project" "consumer") = true := by
    unfold Page.changed
    rw [reached]
    exact Bool.or_true _
  have polled : feed = paid.pollCall 0 "project" "consumer" ⟨1, none⟩ := List.foldl_append ..
  obtain ⟨registered, db⟩ := Feed.pollCall_first 0 (by decide +kernel) (by decide) owned
    (by decide +kernel) paged changed
  rw [← polled] at registered db
  rw [acknowledged, reached] at registered
  -- the second poll, of the event after it
  obtain ⟨q, paged', acknowledged', events, delivered'⟩ :=
    page_listed paid.db.outbox row ⟨10, some ⟨0, 1⟩⟩ rfl (order 1) (by decide +kernel)
  have reached' : q.delivered = 2 := delivered'.trans (by decide +kernel)
  have owned' : feed.accountId "project" = .ok "account-project" := by
    unfold Feed.accountId
    rw [db]
    exact owned
  obtain ⟨same, ended, -⟩ := FeedStep.runAll_combined sampleDigests
    (samplePaid ++ sampleFirst) 0 10 "project" "consumer"
    "account-project" row ⟨0, 1⟩ (by decide) owned' registered
  have answer : polledAt feed.db.outbox row ⟨10, some ⟨0, 1⟩⟩ = (.polled cursor q.response, cursor) := by
    rw [db, polledAt_ok paged', acknowledged', reached']
  have whole : feed.Ended combined (.polled cursor q.response, cursor) := answer ▸ ended
  rcases same with ⟨e, -, failed, -⟩ | ⟨acked, outcome, hfirst, hsecond, hcombined, cursors⟩
  · cases (List.cons.inj (failed.symm.trans whole.done)).1
  · obtain rfl := (List.cons.inj (hcombined.symm.trans whole.done)).1
    refine ⟨acked, q.response, ?_, hfirst, hsecond, whole.done, (whole.consumers _).trans (if_pos rfl), cursors⟩
    show q.events.map (·.sequence) = [2]
    rw [events]
    decide +kernel

end Xscope

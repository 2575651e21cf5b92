/-
The delivery of usage events: a bounded queue in memory. A request reserves a slot before it is
served; its completion, submitted with the permit, owns the slot until a worker has delivered it or
the central side has refused it. Whatever the order of permits, workers and shutdown, every slot
goes through one life: held by a permit, queued, sent by one worker at a time, and freed once.
-/
import Xscope.Base.Table

namespace Xscope.Gateway.Delivery

/-! ## The queue -/

/-- Instants and durations are in nanoseconds. -/
def millis (n : Nat) : Nat := n * 1000000

structure Settings where
  capacity : Nat
  workers : Nat
  maxAge : Nat
  drain : Nat

variable {Event : Type}

structure Entry (Event : Type) where
  id : Nat
  event : Option Event
  queued : Option Nat
  next : Nat
  attempt : Nat
  busy : Bool

instance : Keyed (Entry Event) Nat := ⟨Entry.id⟩

structure State (Event : Type) where
  entries : Table (Entry Event)
  sequence : Nat
  draining : Bool
  stopped : Bool
  fatal : Bool

structure Permit where
  queue : Nat
  id : Nat
  deriving DecidableEq

inductive DeliveryError where
  | retry (status : Nat)
  | permanent (status : Nat)
  deriving DecidableEq

/-- How a send ended. -/
abbrev Outcome := Except DeliveryError Unit

/-- A retry keeps the event, every other outcome ends its delivery. -/
def final : Outcome → Bool
  | .error (.retry _) => false
  | _ => true

namespace State

def start : State Event := ⟨.empty, 0, false, false, false⟩

/-- Whether one more request may be admitted. -/
def ready (settings : Settings) (now : Nat) (s : State Event) : Bool :=
  !s.draining && !s.stopped && !s.fatal && decide (s.entries.rows.length < settings.capacity) &&
    !s.entries.rows.any fun e => e.queued.any fun t => decide (settings.maxAge ≤ now - t)

def reserve (settings : Settings) (queue now : Nat) (s : State Event) : Except String (Permit × State Event) :=
  if !s.ready settings now then .error "usage queue full, stale, draining or unhealthy"
  else if s.sequence + 1 = 2 ^ 64 then .error "queue sequence exhausted"
  else
    let id := s.sequence + 1
    .ok (⟨queue, id⟩, { s with entries := s.entries.upsert ⟨id, none, none, now, 0, false⟩, sequence := id })

/-- `bytes` is the length of the JSON text of an event. -/
def submit (bytes : Event → Nat) (queue now : Nat) (permit : Permit) (event : Event) (s : State Event) :
    Except String (State Event) :=
  if permit.queue ≠ queue then .error "usage permit belongs to another queue"
  else if 32 * 1024 < bytes event then .error "usage event exceeds 32 KiB"
  else match s.entries.get? permit.id with
  | none => .error "missing usage queue permit"
  | some entry =>
    if entry.event.isSome then .error "usage permit already submitted"
    else .ok { s with entries := s.entries.put { entry with event := some event, queued := some now, next := now } }

/-- The slot leaves the map. -/
def remove (id : Nat) (s : State Event) : State Event := { s with entries := s.entries.deleteWhere fun e => e.id == id }

/-- A dropped permit frees its slot unless a completion owns it. -/
def dropPermit (id : Nat) (s : State Event) : Option (State Event) := match s.entries.get? id with
  | some entry => if entry.event.isNone then some (s.remove id) else none
  | none => none

def beginDrain (s : State Event) : State Event := { s with draining := true }

end State

/-- A worker may send the event of the entry. -/
def Entry.ready (now : Nat) (e : Entry Event) : Bool := !e.busy && e.event.isSome && decide (e.next ≤ now)

/-- The entries in the order of the map. -/
def State.ordered (s : State Event) : List (Entry Event) := s.entries.rows.mergeSort fun a b => decide (a.id ≤ b.id)

/-- What a worker takes: the first ready entry, marked as being sent. -/
def State.pick (now : Nat) (s : State Event) : Option (Nat × Event) × State Event :=
  match s.ordered.find? (Entry.ready now) with
  | some entry =>
    (entry.event.map fun event => (entry.id, event), { s with entries := s.entries.put { entry with busy := true } })
  | none => (none, s)

def backoff (attempt id : Nat) : Nat := min (250 * 2 ^ min attempt 6) 10000 + id % 251

/-- A refusal of this status asks for a repair by the operator. -/
def isFatal (status : Nat) : Bool := decide (300 ≤ status ∧ status ≤ 399) || status ∈ [401, 403, 404, 0]

def State.retry (id now : Nat) (s : State Event) : State Event := match s.entries.get? id with
  | some entry =>
    let attempt := min (entry.attempt + 1) (2 ^ 32 - 1)
    { s with
      entries := s.entries.put
        { entry with busy := false, attempt := attempt, next := now + millis (backoff attempt id) } }
  | none => s

/-- What a worker does with the result of a send. -/
def State.complete (id now : Nat) (outcome : Outcome) (s : State Event) : State Event := match outcome with
  | .ok _ => s.remove id
  | .error (.retry _) => s.retry id now
  | .error (.permanent status) => { s.remove id with fatal := s.fatal || isFatal status }

/-! ## Threads -/

inductive Worker (Event : Type) where
  | idle
  | sending (id : Nat) (event : Event)
  | returned

inductive Happening (Event : Type) where
  | reserved (id : Nat)
  | submitted (id : Nat) (event : Event)
  | sent (id : Nat) (event : Event) (outcome : Outcome)
  | dropped (id : Nat)

/-- The queue with the threads around it: the permits alive, the workers, the deadlines of the calls of
`finish`, and what happened so far. -/
structure System (Event : Type) where
  state : State Event
  permits : List Permit
  workers : Nat → Worker Event
  finishing : Nat → Option Nat
  history : List (Happening Event)

def System.start : System Event := ⟨.start, [], fun _ => .idle, fun _ => none, []⟩

namespace System

def setWorker (s : System Event) (worker : Nat) (doing : Worker Event) : System Event :=
  { s with workers := fun w => if w = worker then doing else s.workers w }

def reserve (settings : Settings) (queue now : Nat) (s : System Event) : System Event :=
  match s.state.reserve settings queue now with
  | .ok (permit, state) =>
    { s with state := state, permits := permit :: s.permits, history := .reserved permit.id :: s.history }
  | .error _ => s

/-- A permit of this queue is submitted while it is alive. -/
def submit (bytes : Event → Nat) (queue now : Nat) (permit : Permit) (event : Event)
    (s : System Event) : System Event :=
  if permit.queue = queue ∧ permit ∉ s.permits then s
  else match s.state.submit bytes queue now permit event with
  | .ok state => { s with state := state, history := .submitted permit.id event :: s.history }
  | .error _ => s

def drop (permit : Permit) (s : System Event) : System Event :=
  if permit ∉ s.permits then s
  else
    let permits := s.permits.filter fun p => p ≠ permit
    match s.state.dropPermit permit.id with
    | some state => { s with state := state, permits := permits, history := .dropped permit.id :: s.history }
    | none => { s with permits := permits }

/-- A worker between two sends. -/
def pick (settings : Settings) (now worker : Nat) (s : System Event) : System Event := match s.workers worker with
  | .idle =>
    if settings.workers ≤ worker then s
    else if s.state.stopped then s.setWorker worker .returned
    else match s.state.pick now with
    | (some (id, event), state) => { s with state := state }.setWorker worker (.sending id event)
    | (none, state) => { s with state := state }
  | _ => s

/-- A worker whose send has ended. -/
def complete (now worker : Nat) (outcome : Outcome) (s : System Event) : System Event := match s.workers worker with
  | .sending id event =>
    { s with
      state := s.state.complete id now outcome
      history := .sent id event outcome :: s.history }.setWorker worker .idle
  | _ => s

def finish (settings : Settings) (now thread : Nat) (s : System Event) : System Event :=
  { s with
    state := s.state.beginDrain
    finishing := fun t => if t = thread then some (now + settings.drain) else s.finishing t }

/-- One look of a `finish` at the queue: it waits on, or stops the workers. -/
def look (now thread : Nat) (s : System Event) : System Event := match s.finishing thread with
  | some deadline =>
    if ¬s.state.entries.rows.isEmpty ∧ now < deadline then s
    else
      { s with
        state := { s.state with stopped := true }
        finishing := fun t => if t = thread then none else s.finishing t }
  | none => s

end System

inductive Act (Event : Type) where
  | reserve (now : Nat)
  | submit (now : Nat) (permit : Permit) (event : Event)
  | drop (permit : Permit)
  | pick (now worker : Nat)
  | complete (now worker : Nat) (outcome : Outcome)
  | beginDrain
  | finish (now thread : Nat)
  | look (now thread : Nat)

def Act.run (settings : Settings) (bytes : Event → Nat) (queue : Nat) : Act Event → System Event → System Event
  | .reserve now, s => s.reserve settings queue now
  | .submit now permit event, s => s.submit bytes queue now permit event
  | .drop permit, s => s.drop permit
  | .pick now worker, s => s.pick settings now worker
  | .complete now worker outcome, s => s.complete now worker outcome
  | .beginDrain, s => { s with state := s.state.beginDrain }
  | .finish now thread, s => s.finish settings now thread
  | .look now thread, s => s.look now thread

def Act.runAll (settings : Settings) (bytes : Event → Nat) (queue : Nat) (acts : List (Act Event)) : System Event :=
  acts.foldl (fun s act => act.run settings bytes queue s) .start

/-! ## The life of a slot -/

def Happening.submission (id : Nat) : Happening Event → Option Event
  | .submitted i event => if i = id then some event else none
  | _ => none

/-- The two ways to free a slot: its permit is dropped, or the delivery of its event has ended. -/
def Happening.frees (id : Nat) : Happening Event → Bool
  | .dropped i => i == id
  | .sent i _ outcome => i == id && final outcome
  | _ => false

/-- The events submitted for a slot. -/
def submissions (id : Nat) (history : List (Happening Event)) : List Event :=
  history.filterMap (Happening.submission id)

/-- How often a slot was freed. -/
def freed (id : Nat) (history : List (Happening Event)) : Nat := history.countP (Happening.frees id)

def Happening.slot : Happening Event → Nat
  | .reserved id | .submitted id _ | .sent id _ _ | .dropped id => id

section History

variable {id : Nat}

theorem submissions_cons (x : Happening Event) (h : x.submission id = none) (history : List (Happening Event)) :
    submissions id (x :: history) = submissions id history := List.filterMap_cons_none h

theorem submissions_submitted (id : Nat) (event : Event) (history : List (Happening Event)) :
    submissions id (.submitted id event :: history) = event :: submissions id history :=
  List.filterMap_cons_some (if_pos rfl)

theorem freed_cons (x : Happening Event) (h : x.frees id = false) (history : List (Happening Event)) :
    freed id (x :: history) = freed id history :=
  List.countP_cons_of_neg (by simp [h])

theorem freed_frees (x : Happening Event) (h : x.frees id = true) (history : List (Happening Event)) :
    freed id (x :: history) = freed id history + 1 :=
  List.countP_cons_of_pos h

end History

/-- What is to be seen of one slot. -/
structure View (Event : Type) where
  entry : Option (Entry Event)
  submissions : List Event
  freed : Nat
  issued : Prop
  held : Prop
  sends : Nat → Event → Prop
  ended : Event → Prop

def System.view (queue id : Nat) (s : System Event) : View Event where
  entry := s.state.entries.get? id
  submissions := submissions id s.history
  freed := freed id s.history
  issued := .reserved id ∈ s.history
  held := ⟨queue, id⟩ ∈ s.permits
  sends := fun worker event => s.workers worker = .sending id event
  ended := fun event => ∃ outcome, final outcome = true ∧ .sent id event outcome ∈ s.history

/-- The phases of a slot. -/
inductive Slot (v : View Event) : Prop
  | unused (entry : v.entry = none) (issued : ¬v.issued) (held : ¬v.held) (submissions : v.submissions = [])
      (freed : v.freed = 0)
      (sends : ∀ w event, ¬v.sends w event)
  | held (e : Entry Event) (entry : v.entry = some e) (event : e.event = none) (busy : e.busy = false)
      (issued : v.issued)
      (held : v.held) (submissions : v.submissions = []) (freed : v.freed = 0) (sends : ∀ w event, ¬v.sends w event)
  | queued (e : Entry Event) (event : Event) (entry : v.entry = some e) (carried : e.event = some event)
      (busy : e.busy = false)
      (issued : v.issued) (submissions : v.submissions = [event]) (freed : v.freed = 0)
      (sends : ∀ w event, ¬v.sends w event)
  | sending (e : Entry Event) (event : Event) (worker : Nat) (entry : v.entry = some e) (carried : e.event = some event)
      (busy : e.busy = true) (issued : v.issued) (submissions : v.submissions = [event]) (freed : v.freed = 0)
      (sends : ∀ w x, v.sends w x ↔ w = worker ∧ x = event)
  | gone (entry : v.entry = none) (issued : v.issued) (freed : v.freed = 1) (sends : ∀ w event, ¬v.sends w event)
      (submissions : v.submissions = [] ∨ ∃ event, v.submissions = [event] ∧ v.ended event)

/-- Every slot is in one of its phases, and the slots in use fit the queue. -/
structure System.Sound (settings : Settings) (queue : Nat) (s : System Event) : Prop where
  slots : ∀ id, Slot (s.view queue id)
  sequence : ∀ id, .reserved id ∈ s.history → id ≤ s.state.sequence
  bounded : s.state.entries.rows.length ≤ settings.capacity
  own : ∀ p ∈ s.permits, p.queue = queue

theorem System.Sound.start (settings : Settings) (queue : Nat) :
    (System.start : System Event).Sound settings queue := by
  constructor
  · intro id
    refine .unused rfl ?_ ?_ rfl rfl fun w event h => ?_
    · exact List.not_mem_nil
    · exact List.not_mem_nil
    · cases h
  · intro id h
    cases h
  · exact Nat.zero_le _
  · intro p h
    cases h

section Steps

variable {settings : Settings} {bytes : Event → Nat} {queue : Nat} {s s' : System Event}

theorem length_put (t : Table (Entry Event)) (e : Entry Event) :
    (t.put e).rows.length = t.rows.length := List.length_map _

theorem length_deleteWhere (t : Table (Entry Event)) (p : Entry Event → Bool) :
    (t.deleteWhere p).rows.length ≤ t.rows.length :=
  List.length_filter_le _ _

theorem get?_remove (st : State Event) (id i : Nat) :
    (st.remove id).entries.get? i = if i = id then none else st.entries.get? i := by
  show (st.entries.deleteWhere fun e => e.id == id).get? i = _
  rw [Table.get?_deleteWhere]
  cases h : st.entries.get? i with
  | none => split <;> rfl
  | some e =>
    have : e.id = i := Table.get?_key h
    by_cases hi : i = id
    · rw [if_pos hi]
      simp [Option.filter, this, hi]
    · rw [if_neg hi]
      simp [Option.filter, this, hi]

/-- A slot that nothing happened to looks as before. -/
theorem view_same {i : Nat} (entry : s'.state.entries.get? i = s.state.entries.get? i)
    (history : s'.history = s.history ∨ ∃ x, s'.history = x :: s.history ∧ x.slot ≠ i)
    (permits : ⟨queue, i⟩ ∈ s'.permits ↔ ⟨queue, i⟩ ∈ s.permits)
    (workers : ∀ w event, s'.workers w = .sending i event ↔ s.workers w = .sending i event) :
    s'.view queue i = s.view queue i := by
  have sends : (fun w event => s'.workers w = .sending i event) = fun w event => s.workers w = .sending i event :=
    funext fun w => funext fun event => propext (workers w event)
  rcases history with same | ⟨x, added, other⟩
  · simp only [System.view, entry, same, permits, sends]
  · have submission : Happening.submission i x = none := by
      cases x with
      | submitted id event => exact if_neg other
      | _ => rfl
    have frees : Happening.frees i x = false := by
      cases x with
      | dropped id => exact beq_false_of_ne other
      | sent id event outcome => exact Bool.and_eq_false_imp.2 fun h => absurd (beq_iff_eq.1 h) other
      | _ => rfl
    have issued : .reserved i ∈ s'.history ↔ .reserved i ∈ s.history := by
      rw [added, List.mem_cons, or_iff_right]
      rintro rfl
      exact other rfl
    have ended (event : Event) (outcome : Outcome) : .sent i event outcome ∈ s'.history ↔
        .sent i event outcome ∈ s.history := by
      rw [added, List.mem_cons, or_iff_right]
      rintro rfl
      exact other rfl
    simp only [System.view, entry, permits, sends, issued, ended]
    rw [added, submissions_cons x submission, freed_cons x frees]

/-- A worker that did not send from the slot and does not now. -/
theorem setWorker_sends {worker i : Nat} {before doing : Worker Event} (was : s.workers worker = before)
    (notBefore : ∀ event, before ≠ .sending i event) (notNow : ∀ event, doing ≠ .sending i event) (w : Nat)
    (event : Event) :
    (s.setWorker worker doing).workers w = .sending i event ↔ s.workers w = .sending i event := by
  show (if w = worker then doing else s.workers w) = _ ↔ _
  split
  · rename_i hw
    rw [hw, was]
    exact iff_of_false (notNow event) (notBefore event)
  · exact .rfl

theorem System.Sound.reserve (h : s.Sound settings queue) (now : Nat) :
    (s.reserve settings queue now).Sound settings queue := by
  unfold System.reserve State.reserve
  split
  · rename_i permit state hr
    split at hr
    · cases hr
    · split at hr
      · cases hr
      · rename_i ready _
        cases hr
        -- a new number: neither a slot nor a permit carries it
        have fresh : .reserved (s.state.sequence + 1) ∉ s.history := fun hm => by have := h.sequence _ hm; omega
        have room : s.state.entries.rows.length < settings.capacity := by
          simp only [State.ready, Bool.not_eq_true, Bool.and_eq_true, decide_eq_true_eq, Bool.not_eq_false'] at ready
          simp_all
        refine ⟨fun id => ?_, fun id hm => ?_, ?_, fun p hm => ?_⟩
        · by_cases hi : id = s.state.sequence + 1
          · subst hi
            cases h.slots (s.state.sequence + 1) with
            | unused entry issued held submissions freed sends =>
              refine .held _ (Table.get?_upsert _ _ _ |>.trans (if_pos rfl)) rfl rfl List.mem_cons_self
                List.mem_cons_self ?_ ?_ sends
              · exact (submissions_cons (.reserved (s.state.sequence + 1)) rfl s.history).trans submissions
              · exact (freed_cons (.reserved (s.state.sequence + 1)) rfl s.history).trans freed
            | held _ _ _ _ issued | queued _ _ _ _ _ issued | sending _ _ _ _ _ _ issued | gone _ issued =>
              exact absurd issued fresh
          · rw [view_same (s := s)]
            · exact h.slots id
            · exact (Table.get?_upsert _ _ _).trans (if_neg fun he => hi he.symm)
            · exact .inr ⟨_, rfl, fun he => hi he.symm⟩
            · refine ⟨fun hm => (List.mem_cons.1 hm).resolve_left fun he => hi ?_, List.mem_cons_of_mem _⟩
              exact congrArg Permit.id he
            · exact fun _ _ => .rfl
        · rcases List.mem_cons.1 hm with he | hm
          · cases he
            exact le_rfl
          · exact le_trans (h.sequence id hm) (Nat.le_succ _)
        · have absent : s.state.entries.get? (s.state.sequence + 1) = none := by
            cases h.slots (s.state.sequence + 1) with
            | unused entry | gone entry => exact entry
            | held _ _ _ _ issued | queued _ _ _ _ _ issued | sending _ _ _ _ _ _ issued => exact absurd issued fresh
          obtain ⟨t, ht⟩ := Table.insert?_of_none (t := s.state.entries)
            (r := ⟨s.state.sequence + 1, none, none, now, 0, false⟩) absent
          show (s.state.entries.upsert _).rows.length ≤ _
          rw [Table.upsert, ht, Option.getD_some, (Table.insert?_some ht).2]
          exact room
        · rcases List.mem_cons.1 hm with rfl | hm
          · rfl
          · exact h.own p hm
  · exact h

theorem System.Sound.submit (h : s.Sound settings queue) (now : Nat) (permit : Permit) (event : Event) :
    (s.submit bytes queue now permit event).Sound settings queue := by
  unfold System.submit
  split
  · exact h
  · rename_i alive
    unfold State.submit
    split
    · rename_i state hs
      split at hs
      · cases hs
      · rename_i own
        split at hs
        · cases hs
        · cases hg : s.state.entries.get? permit.id with
          | none => rw [hg] at hs; cases hs
          | some entry =>
            rw [hg] at hs
            simp only at hs
            split at hs
            · cases hs
            · rename_i empty
              cases hs
              have hid : entry.id = permit.id := Table.get?_key hg
              -- the slot goes from held to queued, and the completion owns it from here on
              refine ⟨fun id => ?_, fun id hm => ?_, ?_, h.own⟩
              · by_cases hi : id = permit.id
                · subst hi
                  cases h.slots permit.id with
                  | unused none | gone none => exact absurd (hg.symm.trans none) (by simp)
                  | queued e _ there carried | sending e _ _ there carried =>
                    cases Option.some.inj (hg.symm.trans there)
                    rw [carried] at empty
                    exact absurd rfl empty
                  | held e there none busy issued held submissions freed sends =>
                    cases Option.some.inj (hg.symm.trans there)
                    refine .queued _ event (Table.get?_put_at hid hg _ |>.trans (if_pos rfl)) rfl busy ?_ ?_ ?_ sends
                    · exact List.mem_cons_of_mem _ issued
                    · exact (submissions_submitted _ _ _).trans (congrArg (event :: ·) submissions)
                    · exact (freed_cons (.submitted permit.id event) rfl s.history).trans freed
                · rw [view_same (s := s)]
                  · exact h.slots id
                  · exact (Table.get?_put_at hid hg _).trans (if_neg fun he => hi he.symm)
                  · exact .inr ⟨_, rfl, fun he => hi he.symm⟩
                  · exact .rfl
                  · exact fun _ _ => .rfl
              · exact h.sequence id ((List.mem_cons.1 hm).resolve_left (by simp))
              · exact (length_put _ _).le.trans h.bounded
    · exact h

/-- A dropped permit goes, and with it its slot unless a completion owns it. -/
theorem System.Sound.drop (h : s.Sound settings queue) (permit : Permit) : (s.drop permit).Sound settings queue := by
  unfold System.drop
  split
  · exact h
  · rename_i alive
    have own : permit = ⟨queue, permit.id⟩ := by
      rw [← h.own permit (not_not.1 alive)]
    have others {id : Nat} (hi : id ≠ permit.id) :
        (⟨queue, id⟩ : Permit) ∈ s.permits.filter (fun p => p ≠ permit) ↔ ⟨queue, id⟩ ∈ s.permits := by
      rw [List.mem_filter, and_iff_left]
      exact decide_eq_true fun he => hi (congrArg Permit.id he)
    have kept : ∀ p ∈ s.permits.filter (fun p => p ≠ permit), p.queue = queue :=
      fun p hm => h.own p (List.mem_of_mem_filter hm)
    unfold State.dropPermit
    simp only
    split
    · rename_i state hd
      cases hg : s.state.entries.get? permit.id with
      | none => simp only [hg] at hd; cases hd
      | some entry =>
        simp only [hg] at hd
        split at hd
        · rename_i empty
          cases hd
          have empty : entry.event = none := Option.isNone_iff_eq_none.1 empty
          -- no completion owns the slot, so it is freed with its permit
          refine ⟨fun id => ?_, fun id hm => ?_, ?_, kept⟩
          · by_cases hi : id = permit.id
            · subst hi
              cases h.slots permit.id with
              | unused none | gone none => exact absurd (hg.symm.trans none) (by simp)
              | queued e _ there carried | sending e _ _ there carried =>
                cases Option.some.inj (hg.symm.trans there)
                rw [empty] at carried
                cases carried
              | held e there none busy issued held submissions freed sends =>
                refine .gone ((get?_remove _ _ _).trans (if_pos rfl)) (List.mem_cons_of_mem _ issued) ?_ sends (.inl ?_)
                · exact (freed_frees (.dropped permit.id) (beq_self_eq_true _) s.history).trans (congrArg (· + 1) freed)
                · exact (submissions_cons (.dropped permit.id) rfl s.history).trans submissions
            · rw [view_same (s := s)]
              · exact h.slots id
              · exact (get?_remove _ _ _).trans (if_neg hi)
              · exact .inr ⟨_, rfl, fun he => hi he.symm⟩
              · exact others hi
              · exact fun _ _ => .rfl
          · exact h.sequence id ((List.mem_cons.1 hm).resolve_left (by simp))
          · exact (length_deleteWhere _ _).trans h.bounded
        · cases hd
    · rename_i hd
      -- the slot stays: it is gone already, or a completion owns it
      refine ⟨fun id => ?_, h.sequence, h.bounded, kept⟩
      by_cases hi : id = permit.id
      · subst hi
        cases h.slots permit.id with
        | unused entry issued held submissions freed sends =>
          exact .unused entry issued (fun hm => held (List.mem_of_mem_filter hm)) submissions freed sends
        | held e there none =>
          simp only [show s.state.entries.get? permit.id = some e from there, none] at hd
          cases hd
        | queued e event there carried busy issued submissions freed sends =>
          exact .queued e event there carried busy issued submissions freed sends
        | sending e event worker there carried busy issued submissions freed sends =>
          exact .sending e event worker there carried busy issued submissions freed sends
        | gone entry issued freed sends submissions => exact .gone entry issued freed sends submissions
      · rw [view_same (s := s)]
        · exact h.slots id
        · rfl
        · exact .inl rfl
        · exact others hi
        · exact fun _ _ => .rfl

/-- What a worker takes is ready, and nothing ready comes before it. -/
theorem pick_some {st : State Event} {now : Nat} {e : Entry Event} (h : st.ordered.find? (Entry.ready now) = some e) :
    e ∈ st.entries ∧ e.ready now = true ∧ ∀ x ∈ st.entries, x.ready now = true → e.id ≤ x.id := by
  have there : e ∈ st.entries := List.mem_mergeSort.1 (List.mem_of_find?_eq_some h)
  refine ⟨there, List.find?_some h, fun x hx ready => ?_⟩
  have sorted : st.ordered.Pairwise fun a b => a.id ≤ b.id := mergeSort_sorted Entry.id st.entries.rows
  obtain ⟨-, before, after, split, unready⟩ := List.find?_eq_some_iff_append.1 h
  have hx : x ∈ st.ordered := List.mem_mergeSort.2 hx
  rw [split] at hx sorted
  rcases List.mem_append.1 hx with hx | hx
  · -- what stands before it is not ready
    have := unready x hx
    rw [ready] at this
    cases this
  · rcases List.mem_cons.1 hx with rfl | hx
    · exact le_rfl
    · exact (List.pairwise_cons.1 (List.pairwise_append.1 sorted).2.1).1 x hx

theorem System.Sound.pick (h : s.Sound settings queue) (now worker : Nat) :
    (s.pick settings now worker).Sound settings queue := by
  unfold System.pick
  split
  · rename_i idle
    split
    · exact h
    · split
      · refine ⟨fun id => ?_, h.sequence, h.bounded, h.own⟩
        rw [view_same (s := s)]
        · exact h.slots id
        · rfl
        · exact .inl rfl
        · exact .rfl
        · exact setWorker_sends idle (fun _ => by rintro ⟨⟩) (fun _ => by rintro ⟨⟩)
      · unfold State.pick
        cases hf : s.state.ordered.find? (Entry.ready now) with
        | none => exact h
        | some e =>
          obtain ⟨there, ready, -⟩ := pick_some hf
          simp only [Entry.ready, Bool.and_eq_true, Bool.not_eq_true', decide_eq_true_eq] at ready
          obtain ⟨⟨free, carries⟩, -⟩ := ready
          obtain ⟨event, carried⟩ := Option.isSome_iff_exists.1 carries
          have hg : s.state.entries.get? e.id = some e := Table.get?_of_mem there
          have taken : e.event.map (fun event => (e.id, event)) = some (e.id, event) := by rw [carried]; rfl
          have put (i : Nat) : (s.state.entries.put { e with busy := true }).get? i =
              if e.id = i then some { e with busy := true } else s.state.entries.get? i  :=
            Table.get?_put_at (show key ({ e with busy := true } : Entry Event) = e.id from rfl) hg i
          simp only [taken]
          refine ⟨fun id => ?_, h.sequence, (length_put _ _).le.trans h.bounded, h.own⟩
          -- the slot that is taken goes from queued to sending, every other one is untouched
          by_cases hi : id = e.id
          · subst hi
            cases h.slots e.id with
            | unused none | gone none => exact absurd (hg.symm.trans none) (by simp)
            | held x there none =>
              cases Option.some.inj (hg.symm.trans there)
              rw [carried] at none
              cases none
            | sending x _ _ there _ busy =>
              cases Option.some.inj (hg.symm.trans there)
              rw [free] at busy
              cases busy
            | queued x event' there carried' _ issued submissions freed sends =>
              cases Option.some.inj (hg.symm.trans there)
              cases Option.some.inj (carried.symm.trans carried')
              refine .sending _ event worker (put e.id |>.trans (if_pos rfl)) carried rfl issued submissions freed ?_
              intro w x
              show (if w = worker then _ else s.workers w) = _ ↔ _
              split
              · rename_i hw
                simp [hw, eq_comm]
              · rename_i hw
                exact iff_of_false (sends w x) fun he => hw he.1
          · rw [view_same (s := s)]
            · exact h.slots id
            · exact (put id).trans (if_neg fun he => hi he.symm)
            · exact .inl rfl
            · exact .rfl
            · refine setWorker_sends idle (fun _ => by rintro ⟨⟩) fun x hx => ?_
              cases hx
              exact hi rfl
  · exact h

/-- What the result of a send does to the entries: a final one frees the slot, any other lets the event wait. -/
theorem complete_entries {st : State Event} {id : Nat} {e : Entry Event} (hg : st.entries.get? id = some e) (now : Nat)
    (outcome : Outcome) : (st.complete id now outcome).sequence = st.sequence ∧
      (st.complete id now outcome).entries.rows.length ≤ st.entries.rows.length ∧
      (∀ i, i ≠ id → (st.complete id now outcome).entries.get? i = st.entries.get? i) ∧
      if final outcome then (st.complete id now outcome).entries.get? id = none
      else ∃ e', (st.complete id now outcome).entries.get? id = some e' ∧ e'.event = e.event ∧ e'.busy = false := by
  have removed : (st.remove id).sequence = st.sequence ∧ (st.remove id).entries.rows.length ≤ st.entries.rows.length ∧
      (∀ i, i ≠ id → (st.remove id).entries.get? i = st.entries.get? i) ∧ (st.remove id).entries.get? id = none :=
    ⟨rfl, length_deleteWhere _ _, fun i hi => (get?_remove st id i).trans (if_neg hi),
      (get?_remove st id id).trans (if_pos rfl)⟩
  cases outcome with
  | ok _ => exact removed
  | error error =>
    cases error with
    | permanent status => exact removed
    | retry status =>
      have hid : e.id = id := Table.get?_key hg
      show (st.retry id now).sequence = _ ∧ (st.retry id now).entries.rows.length ≤ _ ∧
        (∀ i, i ≠ id → (st.retry id now).entries.get? i = _) ∧ ∃ e', (st.retry id now).entries.get? id = some e' ∧ _
      have waits : st.retry id now = { st with entries := st.entries.put { e with
          busy := false, attempt := min (e.attempt + 1) (2 ^ 32 - 1)
          next := now + millis (backoff (min (e.attempt + 1) (2 ^ 32 - 1)) id) } } := by
        unfold State.retry
        rw [hg]
      rw [waits]
      refine ⟨rfl, (length_put _ _).le, fun i hi => ?_, _, (Table.get?_put_at hid hg id).trans (if_pos rfl), rfl, rfl⟩
      exact (Table.get?_put_at hid hg i).trans (if_neg fun he => hi he.symm)

theorem System.Sound.complete (h : s.Sound settings queue) (now worker : Nat) (outcome : Outcome) :
    (s.complete now worker outcome).Sound settings queue := by
  unfold System.complete
  split
  · rename_i id event sends
    cases h.slots id with
    | unused _ _ _ _ _ none | held _ _ _ _ _ _ _ _ none | queued _ _ _ _ _ _ _ _ none | gone _ _ _ none =>
      exact absurd sends (none worker event)
    | sending e event' worker' there carried busy issued submissions freed only =>
      obtain ⟨rfl, rfl⟩ := (only worker event).1 sends
      obtain ⟨sequence, length, other, result⟩ := complete_entries there now outcome
      have idle (w : Nat) (x : Event) : ¬(if w = worker then .idle else s.workers w) = Worker.sending id x := by
        split
        · rintro ⟨⟩
        · rename_i hw
          exact fun hs => hw ((only w x).1 hs).1
      refine ⟨fun i => ?_, fun i hm => ?_, length.trans h.bounded, h.own⟩
      · by_cases hi : i = id
        · subst hi
          have subs : Delivery.submissions i (.sent i event outcome :: s.history) = [event] :=
            (submissions_cons (.sent i event outcome) rfl s.history).trans submissions
          cases hf : final outcome with
          | true =>
            rw [hf] at result
            refine .gone result (List.mem_cons_of_mem _ issued) ?_ idle
              (.inr ⟨event, subs, outcome, hf, List.mem_cons_self⟩)
            exact (freed_frees (.sent i event outcome) (by simp [Happening.frees, hf]) s.history).trans
              (congrArg (· + 1) freed)
          | false =>
            rw [hf] at result
            obtain ⟨e', there', carried', free⟩ := result
            refine .queued e' event there' (carried'.trans carried) free (List.mem_cons_of_mem _ issued) subs ?_ idle
            exact (freed_cons (.sent i event outcome) (by simp [Happening.frees, hf]) s.history).trans freed
        · rw [view_same (s := s)]
          · exact h.slots i
          · exact other i hi
          · exact .inr ⟨_, rfl, fun he => hi he.symm⟩
          · exact .rfl
          · refine setWorker_sends sends (fun x hx => ?_) (fun _ => by rintro ⟨⟩)
            cases hx
            exact hi rfl
      · show i ≤ (s.state.complete id now outcome).sequence
        rw [sequence]
        exact h.sequence i ((List.mem_cons.1 hm).resolve_left (by simp))
  · exact h

theorem Act.sound (h : s.Sound settings queue) (act : Act Event) :
    (act.run settings bytes queue s).Sound settings queue := by
  cases act with
  | reserve now => exact h.reserve now
  | submit now permit event => exact h.submit now permit event
  | drop permit => exact h.drop permit
  | pick now worker => exact h.pick now worker
  | complete now worker outcome => exact h.complete now worker outcome
  | beginDrain => exact ⟨h.slots, h.sequence, h.bounded, h.own⟩
  | finish now thread => exact ⟨h.slots, h.sequence, h.bounded, h.own⟩
  | look now thread =>
    show (s.look now thread).Sound settings queue
    unfold System.look
    split
    · split
      · exact h
      · exact ⟨h.slots, h.sequence, h.bounded, h.own⟩
    · exact h

theorem Act.runAll_sound (acts : List (Act Event)) : (Act.runAll settings bytes queue acts).Sound settings queue := by
  have run : ∀ (acts : List (Act Event)) (s : System Event), s.Sound settings queue →
      (acts.foldl (fun s act => act.run settings bytes queue s) s).Sound settings queue := by
    intro acts
    induction acts with
    | nil => exact fun s h => h
    | cons act rest ih => exact fun s h => ih _ (act.sound h)
  exact run acts _ (.start settings queue)

end Steps

/-! ## Exact delivery -/

/-- What holds of the queue whatever happened: it fits its capacity, no submitted event is lost or sent twice at
once, every slot is freed once, and a slot in use is accounted for by its permit, its event or the worker that
sends it. -/
structure System.Exact (settings : Settings) (queue : Nat) (s : System Event) : Prop where
  bounded : s.state.entries.rows.length ≤ settings.capacity
  kept : ∀ id event, .submitted id event ∈ s.history → (∃ e ∈ s.state.entries, e.id = id ∧ e.event = some event) ∨
    ∃ outcome, final outcome = true ∧ .sent id event outcome ∈ s.history
  alone : ∀ w w' id event event', s.workers w = .sending id event → s.workers w' = .sending id event' → w = w'
  freed : ∀ id, .reserved id ∈ s.history → Delivery.freed id s.history =
    if (s.state.entries.get? id).isSome then 0 else 1
  unissued : ∀ id, .reserved id ∉ s.history → Delivery.freed id s.history = 0
  once : ∀ id, (submissions id s.history).length ≤ 1
  held : ∀ e ∈ s.state.entries, e.event = none → ⟨queue, e.id⟩ ∈ s.permits
  sending : ∀ w id event, s.workers w = .sending id event → ∃ e ∈ s.state.entries, e.id = id ∧
    e.event = some event ∧ e.busy = true
  busy : ∀ e ∈ s.state.entries, e.busy = true → ∃ w event, s.workers w = .sending e.id event
  /-- Only ready events come before a ready event: one that waits for its retry does not. -/
  advances : ∀ w now, s.workers w = .idle → w < settings.workers → s.state.stopped = false →
    ∀ e ∈ s.state.entries, e.ready now = true → ∃ x ∈ s.state.entries, x.ready now = true ∧ x.id ≤ e.id ∧
      ∃ event, x.event = some event ∧ (s.pick settings now w).workers w = .sending x.id event

/-- An idle worker takes the first ready event. -/
theorem System.pick_advances {settings : Settings} {s : System Event} {now w : Nat} (idle : s.workers w = .idle)
    (hw : w < settings.workers) (running : s.state.stopped = false) {e : Entry Event} (he : e ∈ s.state.entries)
    (ready : e.ready now = true) :
    ∃ x ∈ s.state.entries, x.ready now = true ∧ x.id ≤ e.id ∧
      ∃ event, x.event = some event ∧ (s.pick settings now w).workers w = .sending x.id event := by
  cases hf : s.state.ordered.find? (Entry.ready now) with
  | none =>
    have := List.find?_eq_none.1 hf e (List.mem_mergeSort.2 he)
    exact absurd ready this
  | some x =>
    obtain ⟨there, hx, first⟩ := pick_some hf
    obtain ⟨event, carried⟩ : ∃ event, x.event = some event := by
      simp only [Entry.ready, Bool.and_eq_true] at hx
      exact Option.isSome_iff_exists.1 hx.1.2
    refine ⟨x, there, hx, first e he ready, event, carried, ?_⟩
    have taken : x.event.map (fun event => (x.id, event)) = some (x.id, event) := by rw [carried]; rfl
    unfold System.pick State.pick
    rw [idle]
    simp only [hf, taken, if_neg (not_le.2 hw), running]
    exact if_pos rfl

theorem submitted_mem {id : Nat} {event : Event} {history : List (Happening Event)}
    (h : .submitted id event ∈ history) :
    event ∈ submissions id history := List.mem_filterMap.2 ⟨_, h, if_pos rfl⟩

theorem System.Sound.exact {settings : Settings} {queue : Nat} {s : System Event}
    (h : s.Sound settings queue) : s.Exact settings queue := by
  have there {e : Entry Event} (he : e ∈ s.state.entries) : s.state.entries.get? e.id = some e := Table.get?_of_mem he
  refine ⟨h.bounded, fun id event hm => ?_, fun w w' id event event' hw hw' => ?_, fun id hm => ?_,
    fun id hm => ?_, fun id => ?_, fun e he none => ?_, fun w id event hw => ?_, fun e he busy => ?_,
      fun w now idle hw running e he ready => ?_⟩
  · have hm := submitted_mem hm
    cases h.slots id with
    | unused _ _ _ submissions | held _ _ _ _ _ _ submissions =>
      rw [show Delivery.submissions id s.history = [] from submissions] at hm
      cases hm
    | queued e event' there carried _ _ submissions | sending e event' _ there carried _ _ submissions =>
      rw [show Delivery.submissions id s.history = [event'] from submissions] at hm
      cases List.mem_singleton.1 hm
      exact .inl ⟨e, Table.get?_mem there, Table.get?_key there, carried⟩
    | gone _ _ _ _ submissions =>
      rcases submissions with none | ⟨event', one, ended⟩
      · rw [show Delivery.submissions id s.history = [] from none] at hm
        cases hm
      · rw [show Delivery.submissions id s.history = [event'] from one] at hm
        cases List.mem_singleton.1 hm
        exact .inr ended
  · cases h.slots id with
    | unused _ _ _ _ _ none | held _ _ _ _ _ _ _ _ none | queued _ _ _ _ _ _ _ _ none | gone _ _ _ none =>
      exact absurd hw (none w event)
    | sending _ _ _ _ _ _ _ _ _ only => rw [((only w event).1 hw).1, ((only w' event').1 hw').1]
  · cases h.slots id with
    | unused _ issued => exact absurd hm issued
    | held _ there _ _ _ _ _ freed | queued _ _ there _ _ _ _ freed | sending _ _ _ there _ _ _ _ freed =>
      rw [show s.state.entries.get? id = some _ from there]
      exact freed
    | gone none _ freed =>
      rw [show s.state.entries.get? id = Option.none from none]
      exact freed
  · cases h.slots id with
    | unused _ _ _ _ freed => exact freed
    | held _ _ _ _ issued | queued _ _ _ _ _ issued | sending _ _ _ _ _ _ issued | gone _ issued =>
      exact absurd issued hm
  · show (Delivery.submissions id s.history).length ≤ 1
    cases h.slots id with
    | unused _ _ _ submissions | held _ _ _ _ _ _ submissions =>
      rw [show Delivery.submissions id s.history = [] from submissions]
      exact Nat.zero_le _
    | queued _ _ _ _ _ _ submissions | sending _ _ _ _ _ _ _ submissions =>
      rw [show Delivery.submissions id s.history = [_] from submissions]
      exact le_rfl
    | gone _ _ _ _ submissions =>
      rcases submissions with none | ⟨_, one, -⟩
      · rw [show Delivery.submissions id s.history = [] from none]
        exact Nat.zero_le _
      · rw [show Delivery.submissions id s.history = [_] from one]
        exact le_rfl
  · cases h.slots e.id with
    | unused absent | gone absent => exact absurd ((there he).symm.trans absent) (by simp)
    | held _ _ _ _ _ permit => exact permit
    | queued x event found carried | sending x event _ found carried =>
      cases Option.some.inj ((there he).symm.trans found)
      rw [none] at carried
      cases carried
  · cases h.slots id with
    | unused _ _ _ _ _ none | held _ _ _ _ _ _ _ _ none | queued _ _ _ _ _ _ _ _ none | gone _ _ _ none =>
      exact absurd hw (none w event)
    | sending e event' worker found carried busy _ _ _ only =>
      obtain ⟨-, rfl⟩ := (only w event).1 hw
      exact ⟨e, Table.get?_mem found, Table.get?_key found, carried, busy⟩
  · cases h.slots e.id with
    | unused absent | gone absent => exact absurd ((there he).symm.trans absent) (by simp)
    | held x found _ free | queued x _ found _ free =>
      cases Option.some.inj ((there he).symm.trans found)
      rw [busy] at free
      cases free
    | sending _ event worker _ _ _ _ _ _ only => exact ⟨worker, event, (only worker event).2 ⟨rfl, rfl⟩⟩
  · exact System.pick_advances idle hw running he ready

/-- Every interleaving of permits, submissions, workers and shutdown keeps the delivery exact. -/
theorem Act.runAll_deliveries (settings : Settings) (bytes : Event → Nat) (queue : Nat) (acts : List (Act Event)) :
    (Act.runAll settings bytes queue acts).Exact settings queue := (Act.runAll_sound acts).exact

end Xscope.Gateway.Delivery

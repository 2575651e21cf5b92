/-
What the console stores of its alerts, over whole runs: whatever the order, the repetition and the
batches of the notifications, an alert is resolved once one of them resolved it, and an
acknowledgement stays.
-/
import Xscope.Base.Decimal
import Xscope.Base.Joined
import Xscope.Ops.Alerts

namespace Xscope.Ops

/-! ## Runs -/

/-- The console and the batches that it has taken, the last one first. -/
structure Inbox where
  store : AlertStore
  processed : List Webhook

def Inbox.new : Inbox := ⟨.empty, []⟩

/-- The notifications that were delivered. -/
def Inbox.delivered (s : Inbox) : List Alert := s.processed.flatMap fun request => request.alerts

inductive AlertOp where
  | receive (clock time : Int) (request : Webhook)
  /-- A batch whose transaction was rolled back. -/
  | failed (request : Webhook)
  | acknowledge (time : Int) (id actor : String) (request : Acknowledge)
  deriving DecidableEq

variable (sha256 : String → String)

def Inbox.step (s : Inbox) : AlertOp → Inbox
  | .receive clock time request => match receiveAlerts sha256 clock time request s.store with
    | .ok (_, store) => ⟨store, request :: s.processed⟩
    | .error _ => s
  | .failed _ => s
  | .acknowledge time id actor request => match acknowledgeAlert time id actor request s.store with
    | .ok (_, store) => { s with store := store }
    | .error _ => s

def Inbox.run (s : Inbox) (ops : List AlertOp) : Inbox := ops.foldl (Inbox.step sha256) s

variable {sha256} {s s' t : AlertStore} {time clock : Int} {id actor : String} {a : Alert} {request : Webhook}

/-! ## Batches -/

/-- The rows of a batch are its notifications, and each of them has its row, resolved if it is. -/
structure Collected (sha256 : String → String) (alerts : List Alert) (rows : List (String × Alert)) : Prop where
  own : ∀ e ∈ rows, e.2 ∈ alerts ∧ e.1 = e.2.id sha256
  all : ∀ a ∈ alerts, ∃ e ∈ rows, e.1 = a.id sha256 ∧ (a.status = "resolved" → e.2.status = "resolved")

/-- What `collect` does to the rows: each id stays, and a resolved one stays resolved. -/
theorem collect_mem (a : Alert) (rows : List (String × Alert)) :
    (∀ e ∈ collect sha256 a rows, e ∈ rows ∨ e = (a.id sha256, a)) ∧
    (∃ e ∈ collect sha256 a rows, e.1 = a.id sha256 ∧ (a.status = "resolved" → e.2.status = "resolved")) ∧
    ∀ e ∈ rows, ∃ e' ∈ collect sha256 a rows, e'.1 = e.1 ∧ (e.2.status = "resolved" → e'.2.status = "resolved") := by
  induction rows with
  | nil =>
    exact ⟨fun e he => .inr (by simpa [collect] using he), ⟨_, List.mem_singleton_self _, rfl, fun h => h⟩, nofun⟩
  | cons entry rest ih =>
    obtain ⟨id, prior⟩ := entry
    unfold collect
    split
    -- the id is there: a resolved notification replaces it, any other leaves it
    · rename_i same
      refine ⟨?_, ⟨_, List.mem_cons_self .., same.symm, ?_⟩, ?_⟩
      · intro e he
        rcases List.mem_cons.1 he with rfl | he
        · split
          · exact .inr (by rw [same])
          · exact .inl (List.mem_cons_self ..)
        · exact .inl (List.mem_cons_of_mem _ he)
      · intro resolved
        rw [if_pos resolved]
        exact resolved
      · intro e he
        rcases List.mem_cons.1 he with rfl | he
        · refine ⟨_, List.mem_cons_self .., rfl, ?_⟩
          intro resolved
          show Alert.status (if _ then _ else _) = _
          split
          · assumption
          · exact resolved
        · exact ⟨e, List.mem_cons_of_mem _ he, rfl, fun h => h⟩
    · split
      · refine ⟨?_, ⟨_, List.mem_cons_self .., rfl, fun h => h⟩,
          fun e he => ⟨e, List.mem_cons_of_mem _ he, rfl, fun h => h⟩⟩
        intro e he
        rcases List.mem_cons.1 he with rfl | he
        · exact .inr rfl
        · exact .inl he
      · obtain ⟨own, ⟨e, he, mine⟩, kept⟩ := ih
        refine ⟨?_, ⟨e, List.mem_cons_of_mem _ he, mine⟩, ?_⟩
        · intro e he
          rcases List.mem_cons.1 he with rfl | he
          · exact .inl (List.mem_cons_self ..)
          · exact (own e he).imp_left (List.mem_cons_of_mem _)
        · intro e he
          rcases List.mem_cons.1 he with rfl | he
          · exact ⟨_, List.mem_cons_self .., rfl, fun h => h⟩
          · obtain ⟨e', he', found⟩ := kept e he
            exact ⟨e', List.mem_cons_of_mem _ he', found⟩

theorem collected (alerts : List Alert) : Collected sha256 alerts
    (alerts.foldl (fun rows a => collect sha256 a rows) []) := by
  induction alerts using List.reverseRecOn with
  | nil => exact ⟨nofun, nofun⟩
  | append_singleton alerts a ih =>
    rw [List.foldl_append, List.foldl_cons, List.foldl_nil]
    obtain ⟨mem, mine, kept⟩ := collect_mem a (alerts.foldl (fun rows a => collect sha256 a rows) [])
    constructor
    · intro e he
      rcases mem e he with he | rfl
      · exact ⟨List.mem_append_left _ (ih.own e he).1, (ih.own e he).2⟩
      · exact ⟨by simp, rfl⟩
    · intro b hb
      rcases List.mem_append.1 hb with hb | hb
      · obtain ⟨e, he, id, resolved⟩ := ih.all b hb
        obtain ⟨e', he', same, resolved'⟩ := kept e he
        exact ⟨e', he', same.trans id, fun h => resolved' (resolved h)⟩
      · rw [List.mem_singleton.1 hb]
        exact mine

/-- The alert is stored. -/
def AlertStore.Has (s : AlertStore) (id : String) : Prop := ∃ row, s.alerts.get? id = some row

/-- The alert is stored as resolved. -/
def AlertStore.Resolved (s : AlertStore) (id : String) : Prop :=
  ∃ row, s.alerts.get? id = some row ∧ row.state = "resolved"

/-- Every acknowledgement stays. -/
def KeepsAcks (s s' : AlertStore) : Prop := ∀ id row, s.alerts.get? id = some row → row.acknowledgedAt ≠ none →
  ∃ row', s'.alerts.get? id = some row' ∧ row'.acknowledgedBy = row.acknowledgedBy ∧
    row'.acknowledgedAt = row.acknowledgedAt

theorem KeepsAcks.refl (s : AlertStore) : KeepsAcks s s := fun _ row found _ => ⟨row, found, rfl, rfl⟩

theorem KeepsAcks.trans (h : KeepsAcks s s') (h' : KeepsAcks s' t) : KeepsAcks s t := by
  intro id row found acknowledged
  obtain ⟨row', found', actor, time⟩ := h id row found acknowledged
  obtain ⟨row'', found'', actor', time'⟩ := h' id row' found' (by rwa [time])
  exact ⟨row'', found'', actor'.trans actor, time'.trans time⟩

/-- What the rows of a batch leave: each of them its alert, resolved if it was or if one of them is. -/
structure Put (rows : List (String × Alert)) (s s' : AlertStore) : Prop where
  has : ∀ id, s'.Has id ↔ s.Has id ∨ ∃ e ∈ rows, e.1 = id
  resolved : ∀ id, s'.Resolved id ↔ s.Resolved id ∨ ∃ e ∈ rows, e.1 = id ∧ e.2.status = "resolved"
  acks : KeepsAcks s s'

theorem putAlert_put (time : Int) (e : String × Alert) (s : AlertStore) :
    ∃ s', putAlert time e s = .ok ((), s') ∧ Put [e] s s' := by
  obtain ⟨id, a⟩ := e
  obtain ⟨s', done, -, lookup⟩ := putAlert_ok time id a s
  refine ⟨s', done, ?_, ?_, ?_⟩
  · intro k
    unfold AlertStore.Has
    rw [lookup]
    by_cases same : id = k <;> simp [same]
  · intro k
    unfold AlertStore.Resolved
    rw [lookup]
    by_cases same : id = k
    · subst same
      rw [if_pos rfl]
      simp only [Option.some.injEq, exists_eq_left', joined_state, Option.mem_def, List.mem_singleton,
        exists_eq_left, true_and]
      exact or_comm
    · simp [same]
  · intro k row found _
    by_cases same : id = k
    · subst same
      rw [lookup, if_pos rfl, found]
      exact ⟨_, rfl, joined_acknowledged row⟩
    · refine ⟨row, ?_, rfl, rfl⟩
      rw [lookup, if_neg same, found]

theorem putAlerts_put (time : Int) (rows : List (String × Alert)) :
    ∀ s : AlertStore, ∃ s', putAlerts time rows s = .ok ((), s') ∧ Put rows s s' := by
  induction rows with
  | nil => exact fun s => ⟨s, rfl, by simp, by simp, .refl s⟩
  | cons e rest ih =>
    intro s
    obtain ⟨t, first, put⟩ := putAlert_put time e s
    obtain ⟨s', done, puts⟩ := ih t
    refine ⟨s', ?_, ?_, ?_, put.acks.trans puts.acks⟩
    · unfold putAlerts
      rw [Tx.bind_of_ok first]
      exact done
    · intro k
      rw [puts.has, put.has]
      simp only [exists_eq_left, List.mem_cons, List.not_mem_nil, false_and, exists_false, false_or, or_and_right,
        exists_or, or_assoc]
    · intro k
      rw [puts.resolved, put.resolved]
      simp only [exists_eq_left, List.mem_cons, List.not_mem_nil, false_and, exists_false, false_or, or_and_right,
        exists_or, or_assoc]

/-- Rows that the alerts already have change nothing. -/
theorem putAlerts_again {rows : List (String × Alert)}
    (h : ∀ e ∈ rows, s.Has e.1 ∧ (e.2.status = "resolved" → s.Resolved e.1)) : putAlerts time rows s = .ok ((), s) := by
  induction rows with
  | nil => rfl
  | cons e rest ih =>
    obtain ⟨⟨row, found⟩, resolved⟩ := h e (List.mem_cons_self ..)
    have again : putAlert time e s = .ok ((), s) := by
      apply putAlert_again found
      intro he
      obtain ⟨row', found', state⟩ := resolved he
      cases Option.some.inj (found.symm.trans found')
      exact state
    unfold putAlerts
    rw [Tx.bind_of_ok again]
    exact ih fun e he => h e (List.mem_cons_of_mem _ he)

/-- A batch that is taken is well formed, and adds or resolves the alerts of its notifications. -/
theorem receiveAlerts_ok (h : receiveAlerts sha256 clock time request s = .ok ((), s')) :
    (∀ a ∈ request.alerts, a.malformed clock = false) ∧ KeepsAcks s s' ∧
    (∀ id, s'.Has id ↔ s.Has id ∨ ∃ a ∈ request.alerts, a.id sha256 = id) ∧
    ∀ id, s'.Resolved id ↔ s.Resolved id ∨ ∃ a ∈ request.alerts, a.id sha256 = id ∧ a.status = "resolved" := by
  unfold receiveAlerts at h
  simp only [Tx.reject_bind] at h
  obtain ⟨-, formed, done⟩ := h
  obtain ⟨t, put, puts⟩ := putAlerts_put time (request.alerts.foldl (fun rows a => collect sha256 a rows) []) s
  rw [put] at done
  cases done
  have rows : Collected sha256 request.alerts _ := collected request.alerts
  refine ⟨?_, puts.acks, ?_, ?_⟩
  · intro a ha
    simpa using fun bad : a.malformed clock = true => formed (List.any_eq_true.2 ⟨a, ha, bad⟩)
  · intro id
    rw [puts.has]
    refine or_congr_right ⟨?_, ?_⟩
    · rintro ⟨e, he, rfl⟩
      exact ⟨e.2, (rows.own e he).1, (rows.own e he).2.symm⟩
    · rintro ⟨a, ha, rfl⟩
      obtain ⟨e, he, id, -⟩ := rows.all a ha
      exact ⟨e, he, id⟩
  · intro id
    rw [puts.resolved]
    refine or_congr_right ⟨?_, ?_⟩
    · rintro ⟨e, he, rfl, resolved⟩
      exact ⟨e.2, (rows.own e he).1, (rows.own e he).2.symm, resolved⟩
    · rintro ⟨a, ha, rfl, resolved⟩
      obtain ⟨e, he, id, resolved'⟩ := rows.all a ha
      exact ⟨e, he, id, resolved' resolved⟩

/-- A batch whose alerts are stored, and resolved where it resolves them, changes nothing. -/
theorem receiveAlerts_again {r : Unit × AlertStore} (has : ∀ a ∈ request.alerts, s.Has (a.id sha256))
    (resolved : ∀ a ∈ request.alerts, a.status = "resolved" → s.Resolved (a.id sha256))
    (h : receiveAlerts sha256 clock time request s = .ok r) : r.2 = s := by
  have rows : Collected sha256 request.alerts _ := collected request.alerts
  have again : putAlerts time (request.alerts.foldl (fun rows a => collect sha256 a rows) []) s = .ok ((), s) := by
    apply putAlerts_again
    intro e he
    obtain ⟨held, own⟩ := rows.own e he
    rw [own]
    exact ⟨has e.2 held, resolved e.2 held⟩
  unfold receiveAlerts at h
  simp only [Tx.reject_bind] at h
  obtain ⟨-, -, done⟩ := h
  rw [again] at done
  cases done
  rfl

/-! ## Acknowledgements -/

theorem acknowledgeAlert_ok {ack : Acknowledge} (h : acknowledgeAlert time id actor ack s = .ok ((), s')) :
    KeepsAcks s s' ∧ (∀ k, s'.Has k ↔ s.Has k) ∧ ∀ k, s'.Resolved k ↔ s.Resolved k := by
  unfold acknowledgeAlert at h
  simp only [Tx.reject_bind, Tx.read_bind, Tx.expect_bind] at h
  obtain ⟨-, row, found, done⟩ := h
  split at done
  · rename_i unread
    cases done
    have own : row.id = id := Table.get?_key found
    have lookup : ∀ k, (s.alerts.put { row with acknowledgedAt := some time, acknowledgedBy := some actor }).get? k =
        if id = k then some { row with acknowledgedAt := some time, acknowledgedBy := some actor }
          else s.alerts.get? k :=
      fun k => Table.get?_put_at own found k
    refine ⟨?_, ?_, ?_⟩
    · intro k old known acknowledged
      by_cases same : id = k
      · subst same
        cases Option.some.inj (found.symm.trans known)
        exact absurd (Option.isNone_iff_eq_none.1 unread) acknowledged
      · refine ⟨old, ?_, rfl, rfl⟩
        rw [lookup, if_neg same, known]
    · intro k
      unfold AlertStore.Has
      rw [lookup]
      by_cases same : id = k
      · subst same
        simp [found]
      · simp [same]
    · intro k
      unfold AlertStore.Resolved
      rw [lookup]
      by_cases same : id = k
      · subst same
        simp [found]
      · simp [same]
  · cases done
    exact ⟨.refl s, fun _ => .rfl, fun _ => .rfl⟩

/-! ## Every run -/

/-- The store is what the delivered notifications say together. -/
structure Inbox.Converged (sha256 : String → String) (s : Inbox) : Prop where
  has : ∀ id, s.store.Has id ↔ ∃ a ∈ s.delivered, a.id sha256 = id
  resolved : ∀ id, s.store.Resolved id ↔ ∃ a ∈ s.delivered, a.id sha256 = id ∧ a.status = "resolved"
  formed : ∀ a ∈ s.delivered, a.fingerprint.toList.all isHexDigit = true

theorem Alert.hex_of_formed (h : a.malformed clock = false) : a.fingerprint.toList.all isHexDigit = true := by
  unfold Alert.malformed at h
  simp only [Bool.or_eq_false_iff, Bool.not_eq_false'] at h
  exact h.1.1.1.1.1.1.1.2

theorem Inbox.step_converged {s : Inbox} (c : s.Converged sha256) (op : AlertOp) :
    (s.step sha256 op).Converged sha256 := by
  cases op with
  | receive clock time request =>
    simp only [Inbox.step]
    split
    · rename_i store taken
      obtain ⟨formed, -, has, resolved⟩ := receiveAlerts_ok taken
      refine ⟨?_, ?_, ?_⟩
      · intro id
        simp only [has, c.has, Inbox.delivered, List.flatMap_cons, List.mem_append, or_and_right, exists_or]
        exact or_comm
      · intro id
        simp only [resolved, c.resolved, Inbox.delivered, List.flatMap_cons, List.mem_append, or_and_right, exists_or]
        exact or_comm
      · intro a ha
        rcases List.mem_append.1 ha with ha | ha
        · exact Alert.hex_of_formed (formed a ha)
        · exact c.formed a ha
    · exact c
  | failed request => exact c
  | acknowledge time id actor request =>
    simp only [Inbox.step]
    split
    · rename_i store done
      obtain ⟨-, has, resolved⟩ := acknowledgeAlert_ok done
      exact ⟨fun k => (has k).trans (c.has k), fun k => (resolved k).trans (c.resolved k), c.formed⟩
    · exact c

theorem Inbox.step_acks (s : Inbox) (op : AlertOp) : KeepsAcks s.store (s.step sha256 op).store ∧
    ∀ request ∈ s.processed, request ∈ (s.step sha256 op).processed := by
  cases op with
  | receive clock time request =>
    simp only [Inbox.step]
    split
    · rename_i store taken
      exact ⟨(receiveAlerts_ok taken).2.1, fun _ h => List.mem_cons_of_mem _ h⟩
    · exact ⟨.refl _, fun _ h => h⟩
  | failed request => exact ⟨.refl _, fun _ h => h⟩
  | acknowledge time id actor request =>
    simp only [Inbox.step]
    split
    · rename_i store done
      exact ⟨(acknowledgeAlert_ok done).1, fun _ h => h⟩
    · exact ⟨.refl _, fun _ h => h⟩

theorem Inbox.run_converged (ops : List AlertOp) :
    ∀ {s : Inbox}, s.Converged sha256 → (s.run sha256 ops).Converged sha256 := by
  induction ops with
  | nil => exact fun c => c
  | cons op rest ih => exact fun c => ih (Inbox.step_converged c op)

theorem Inbox.run_acks (ops : List AlertOp) : ∀ s : Inbox, KeepsAcks s.store (s.run sha256 ops).store ∧
    ∀ request ∈ s.processed, request ∈ (s.run sha256 ops).processed := by
  induction ops with
  | nil => exact fun s => ⟨.refl _, fun _ h => h⟩
  | cons op rest ih =>
    intro s
    obtain ⟨acks, processed⟩ := Inbox.step_acks s op
    obtain ⟨acks', processed'⟩ := ih (s.step sha256 op)
    exact ⟨acks.trans acks', fun request h => processed' request (processed request h)⟩

theorem Inbox.new_converged : Inbox.new.Converged sha256 := by
  refine ⟨?_, ?_, nofun⟩
  · intro id
    simp [AlertStore.Has, Inbox.new, AlertStore.empty, Inbox.delivered]
  · intro id
    simp [AlertStore.Resolved, Inbox.new, AlertStore.empty, Inbox.delivered]

/-- A processed batch that comes again changes nothing. -/
theorem Inbox.Converged.redelivered {s : Inbox} (c : s.Converged sha256) (processed : request ∈ s.processed)
    (clock time : Int) :
    (s.step sha256 (.receive clock time request)).store = s.store := by
  have delivered : ∀ a ∈ request.alerts, a ∈ s.delivered := fun a ha => List.mem_flatMap.2 ⟨request, processed, ha⟩
  simp only [Inbox.step]
  split
  · rename_i store taken
    exact receiveAlerts_again (fun a ha => (c.has _).2 ⟨a, delivered a ha, rfl⟩)
      (fun a ha resolved => (c.resolved _).2 ⟨a, delivered a ha, rfl, resolved⟩) taken
  · rfl

/-! ## Identities -/

theorem toLower_ne_colon {c : Char} (h : isHexDigit c = true) : c.toLower ≠ ':' := by
  unfold Char.toLower
  split
  · rename_i upper
    intro same
    have value : (c.val + 32).toNat = 58 := congrArg (fun c => c.val.toNat) same
    have low : 65 ≤ c.val.toNat := UInt32.le_iff_toNat_le.1 upper.1
    have high : c.val.toNat ≤ 90 := UInt32.le_iff_toNat_le.1 upper.2
    rw [UInt32.toNat_add] at value
    have shift : (32 : UInt32).toNat = 32 := rfl
    omega
  · rintro rfl
    revert h
    decide

theorem Alert.digestText_inj {a b : Alert} (ha : a.fingerprint.toList.all isHexDigit = true)
    (hb : b.fingerprint.toList.all isHexDigit = true) (h : a.digestText = b.digestText) : a.identity = b.identity := by
  have plain : ∀ {x : Alert}, x.fingerprint.toList.all isHexDigit = true → ':' ∉ x.identity.1.toList := by
    intro x hx held
    have lower : x.identity.1.toList = x.fingerprint.toList.map Char.toLower := String.toList_map
    rw [lower] at held
    obtain ⟨c, hc, colon⟩ := List.mem_map.1 held
    exact toLower_ne_colon (List.all_eq_true.1 hx c hc) colon
  have texts := congrArg String.toList h
  unfold Alert.digestText at texts
  simp only [String.toList_append, List.append_assoc] at texts
  obtain ⟨fingerprints, starts⟩ := Joined.split_inj (plain ha) (plain hb) texts
  exact Prod.ext (String.toList_inj.1 fingerprints) (toString_int_inj (String.toList_inj.1 starts))

/-! ## Convergence -/

/-- Whatever was delivered in whatever batches and order, the alerts stored are those of the
    delivered notifications, each resolved exactly if a notification with its fingerprint and start,
    in milliseconds, was; an acknowledgement stays, and a processed batch that comes again changes
    nothing. -/
theorem Inbox.run_converges (ops : List AlertOp)
    (distinct : ∀ a ∈ (Inbox.new.run sha256 ops).delivered, ∀ b ∈ (Inbox.new.run sha256 ops).delivered,
      sha256 a.digestText = sha256 b.digestText → a.digestText = b.digestText) :
    (∀ a ∈ (Inbox.new.run sha256 ops).delivered, ∃ row, (Inbox.new.run sha256 ops).store.alerts.get?
      (a.id sha256) = some row ∧
      (row.state = "resolved" ↔
        ∃ b ∈ (Inbox.new.run sha256 ops).delivered, b.identity = a.identity ∧ b.status = "resolved")) ∧
    (∀ row ∈ (Inbox.new.run sha256 ops).store.alerts, ∃ a ∈ (Inbox.new.run sha256 ops).delivered,
      a.id sha256 = row.id) ∧
    ∀ more, KeepsAcks (Inbox.new.run sha256 ops).store ((Inbox.new.run sha256 ops).run sha256 more).store ∧
      ∀ request ∈ (Inbox.new.run sha256 ops).processed, ∀ clock time,
        (((Inbox.new.run sha256 ops).run sha256 more).step sha256 (.receive clock time request)).store =
          ((Inbox.new.run sha256 ops).run sha256 more).store := by
  have c : (Inbox.new.run sha256 ops).Converged sha256 := Inbox.run_converged ops Inbox.new_converged
  refine ⟨?_, ?_, ?_⟩
  · intro a ha
    obtain ⟨row, found⟩ := (c.has _).2 ⟨a, ha, rfl⟩
    refine ⟨row, found, ?_⟩
    constructor
    · intro resolved
      obtain ⟨b, hb, same, resolved'⟩ := (c.resolved _).1 ⟨row, found, resolved⟩
      refine ⟨b, hb, ?_, resolved'⟩
      exact Alert.digestText_inj (c.formed b hb) (c.formed a ha) (distinct b hb a ha same)
    · rintro ⟨b, hb, same, resolved⟩
      have one : b.id sha256 = a.id sha256 := by
        unfold Alert.id Alert.digestText
        rw [same]
      obtain ⟨row', found', state⟩ := (c.resolved _).2 ⟨b, hb, one, resolved⟩
      cases Option.some.inj (found.symm.trans found')
      exact state
  · intro row hr
    exact (c.has row.id).1 ⟨row, Table.get?_of_mem hr⟩
  · intro more
    obtain ⟨acks, processed⟩ := Inbox.run_acks more (Inbox.new.run sha256 ops)
    refine ⟨acks, ?_⟩
    intro request hr clock time
    exact (Inbox.run_converged more c).redelivered (processed request hr) clock time

/-! ## Two starts within a millisecond -/

def sampleSha256 (text : String) : String :=
  if text = "0123456789abcdef:1790000000000" then "e0842bc91abf6087ec707857fa7b73114e9c9609d1c1ef66a9498aa2474b4369"
    else ""

def sampleAlert (status : String) (startsAt : Int) : Alert :=
  { status := status, labels := [("alertname", "XScopeGatewayDown")], annotations := [], startsAt := startsAt
    endsAt := 1790000060000000000, fingerprint := "0123456789abcdef" }

def sampleFiring : Webhook := ⟨[sampleAlert "firing" 1790000000000000100], 0⟩

/-- An alert, its acknowledgement, and the resolution of an alert that starts a hundred nanoseconds later. -/
def sampleOps : List AlertOp :=
  [.receive 1790000000000000000 1790000000000000 sampleFiring,
    .acknowledge 1790000030000000 (sampleSha256 "0123456789abcdef:1790000000000") "operator" ⟨"known"⟩,
    .receive 1790000060000000000 1790000060000000 ⟨[sampleAlert "resolved" 1790000000000000200], 0⟩]

/-- The alerts told apart by their exact start. -/
def ResolvedExactly (sha256 : String → String) (s : Inbox) : Prop :=
  ∀ a ∈ s.delivered, ∀ row, s.store.alerts.get? (a.id sha256) = some row →
    (row.state = "resolved" ↔ ∃ b ∈ s.delivered, b.fingerprint = a.fingerprint ∧ b.startsAt = a.startsAt ∧
      b.status = "resolved")

/-- The one alert of the run is resolved and acknowledged, and stays so when it fires again. -/
theorem sample_converges :
    ((Inbox.new.run sampleSha256 sampleOps).store.alerts.rows.map fun row => (row.state, row.acknowledgedBy)) =
      [("resolved", some "operator")] ∧
    ((Inbox.new.run sampleSha256 sampleOps).step sampleSha256
      (.receive 1790000090000000000 1790000090000000 sampleFiring)).store =
      (Inbox.new.run sampleSha256 sampleOps).store := by
  have distinct : ∀ a ∈ (Inbox.new.run sampleSha256 sampleOps).delivered,
    ∀ b ∈ (Inbox.new.run sampleSha256 sampleOps).delivered,
      sampleSha256 a.digestText = sampleSha256 b.digestText → a.digestText = b.digestText := by
    decide +kernel
  obtain ⟨-, -, later⟩ := Inbox.run_converges sampleOps distinct
  have processed : sampleFiring ∈ (Inbox.new.run sampleSha256 sampleOps).processed := by decide +kernel
  exact ⟨by decide +kernel, (later []).2 sampleFiring processed _ _⟩

/-- The first alert is stored as resolved, and no notification with its start resolved it. -/
theorem sample_rounded : ¬ResolvedExactly sampleSha256 (Inbox.new.run sampleSha256 sampleOps) := by
  intro exactly
  have delivered : sampleAlert "firing" 1790000000000000100 ∈ (Inbox.new.run sampleSha256 sampleOps).delivered := by
    decide +kernel
  have state : ((Inbox.new.run sampleSha256 sampleOps).store.alerts.get?
      ((sampleAlert "firing" 1790000000000000100).id sampleSha256)).map (fun row => row.state) = some "resolved" := by
    decide +kernel
  obtain ⟨row, found, resolved⟩ := Option.map_eq_some_iff.1 state
  obtain ⟨b, hb, exact⟩ := (exactly _ delivered row found).1 resolved
  revert b
  decide +kernel

end Xscope.Ops

/-
Delivery of the account events. Over any interleaving of appends and worker calls the effects of
an account are those of its acknowledged events, each stored once; a job with unacknowledged
events is never idle; and only the holder of the current lease moves a job forward.
-/
import Xscope.Outbox.Appends
import Xscope.Outbox.Worker

namespace Xscope

variable (digests : Digests)

/-! ## The system -/

/-- A call of a worker, or an operator's retry. -/
inductive WorkerOp where
  | claim (now : Int) (token : String) (skipped : List String) (request : ClaimRequest)
  | complete (clock : Clock) (lease : Lease)
  | fail (lockedAt now : Int) (lease : Lease) (reason : String)
  | retry (now : Int) (auditId account actor reason : String)

def WorkerOp.run : WorkerOp → Db → Db
  | .claim now token skipped request, db => (Tx.commit (claimEventJob now token skipped request) db).2
  | .complete clock lease, db => (Tx.commit (completeEventJob digests clock lease) db).2
  | .fail lockedAt now lease reason, db => (Tx.commit (failEventJob lockedAt now lease reason) db).2
  | .retry now auditId account actor reason, db => (Tx.commit (retryEventJob now auditId account actor reason) db).2

/-- One step of the control plane: a money operation, which appends events, or a worker call. -/
inductive Action where
  | money (op : Op)
  | worker (op : WorkerOp)

def Action.run : Action → Db → Db
  | .money op, db => op.run digests db
  | .worker op, db => op.run digests db

def Action.runAll (actions : List Action) (db : Db) : Db := actions.foldl (fun db action => action.run digests db) db

/-! ## The invariant -/

namespace Outbox

/-- The highest event sequence of an account, zero before the first event. -/
def last (o : Outbox) (account : String) : Int := (o.lastSequence account).getD 0

/-- The job of an account. -/
def job? (o : Outbox) (account : String) : Option BillingJob := o.jobs.get? (account, consumer)

/-- What an account has acknowledged. -/
def acknowledged (o : Outbox) (account : String) : Int := ((o.job? account).map (·.acknowledged)).getD 0

end Outbox

/-- A job aims at the last event of its account and sleeps only when it got there. -/
structure BillingJob.Sound (job : BillingJob) (last : Int) : Prop where
  target : job.targetSequence = last
  nonneg : 0 ≤ job.acknowledged
  bounded : job.acknowledged ≤ job.targetSequence
  awake : job.acknowledged < job.targetSequence → job.state ≠ .idle

structure Outbox.Sound (o : Outbox) : Prop where
  numbered : ∀ account s, (∃ e ∈ o.events, e.billingAccountId = account ∧ e.sequence = s) ↔ 1 ≤ s ∧ s ≤ o.last account
  scheduled : ∀ account, 0 < o.last account → ∃ job, o.job? account = some job
  jobs : ∀ account job, o.job? account = some job → job.Sound (o.last account)
  effects : ∀ account s,
    (∃ x ∈ o.effects, x.billingAccountId = account ∧ x.sequence = s) ↔ 1 ≤ s ∧ s ≤ o.acknowledged account
  hashes : ∀ x ∈ o.effects, x.consumer = consumer ∧
    ∃ e ∈ o.events, e.billingAccountId = x.billingAccountId ∧ e.sequence = x.sequence ∧
      x.payloadSha256 = digests.event e

/-! ## Appends -/

section Append

variable {digests : Digests} {account : String} {o o' : Outbox}

/-- The last sequence after one more event that follows it. -/
theorem last_insert {event : BillingEvent} {events : Table BillingEvent} (hi : o.events.insert? event = some events)
    (hs : event.sequence = o.last event.billingAccountId + 1) (jobs : Table BillingJob) (x : String) :
    ({ o with events := events, jobs := jobs } : Outbox).last x =
      o.last x + if x = event.billingAccountId then 1 else 0 := by
  unfold Outbox.last Outbox.lastSequence at hs ⊢
  show ((events.select _).map _).max?.getD 0 = _
  rw [Table.select_insert? hi]
  by_cases hx : x = event.billingAccountId
  · subst hx
    simp only [beq_self_eq_true, if_true, List.map_cons, List.max?_cons, Option.getD_some]
    cases hm : ((o.events.select fun e => e.billingAccountId == event.billingAccountId).map (·.sequence)).max? with
    | none => rw [hm] at hs; simpa using hs
    | some m => rw [hm] at hs; simp only [Option.getD_some] at hs; simp [hs]
  · simp [Ne.symm hx, hx]

/-- An append numbers one more event of its account. -/
theorem Outbox.Appended.last (h : Outbox.Appended account o o') : o'.last account = o.last account + 1 := by
  obtain ⟨event, events, job, rfl, hseq, -, hi, -, -, -, rfl⟩ := h.append
  rw [last_insert hi hseq, if_pos rfl]

theorem job?_upsert (o : Outbox) (events : Table BillingEvent) {job : BillingJob} (hc : job.consumer = consumer)
    (x : String) :
    ({ o with events := events, jobs := o.jobs.upsert job } : Outbox).job? x =
      if x = job.billingAccountId then some job else o.job? x := by
  have hk : key job = (x, consumer) ↔ x = job.billingAccountId := by
    show (job.billingAccountId, job.consumer) = (x, consumer) ↔ _
    rw [hc, Prod.mk.injEq, eq_self_iff_true, and_true, eq_comm]
  show (o.jobs.upsert job).get? (x, consumer) = _
  rw [Table.get?_upsert]
  simp only [hk]
  rfl

theorem Outbox.Sound.last_nonneg (s : o.Sound digests) (account : String) : 0 ≤ o.last account := by
  unfold Outbox.last
  cases hm : o.lastSequence account with
  | none => exact le_rfl
  | some m =>
    have hmem := List.max?_mem hm
    obtain ⟨e, he, rfl⟩ := List.mem_map.1 hmem
    obtain ⟨he, hp⟩ := List.mem_filter.1 he
    have := ((s.numbered account e.sequence).1 ⟨e, he, by simpa using hp, rfl⟩).1
    simp only [Option.getD_some]; omega

/-- An append keeps the invariant: the new event is the last of its account, and its job is
there, aims at it and is awake. -/
theorem Outbox.Appended.sound (h : Outbox.Appended account o o') (s : o.Sound digests) : o'.Sound digests := by
  obtain ⟨event, events, job, rfl, hseq, -, hi, ⟨now, hjob⟩, h0, h1, rfl⟩ := h.append
  have hseq : event.sequence = o.last event.billingAccountId + 1 := hseq
  have hlast := last_insert hi hseq (o.jobs.upsert job)
  -- the job of the account aims at the new event, whether it was there before or not
  have hc : job.consumer = consumer ∧ job.billingAccountId = event.billingAccountId ∧
      job.acknowledged = o.acknowledged event.billingAccountId ∧ job.targetSequence = event.sequence ∧
        job.state ≠ .idle := by
    rw [hjob]
    unfold Outbox.acknowledged Outbox.job?
    cases hg : o.jobs.get? (event.billingAccountId, consumer) with
    | none => simp [scheduledJob]
    | some prior =>
      obtain ⟨e1, e2⟩ := Prod.mk.inj (Table.get?_key hg : (prior.billingAccountId, prior.consumer) = _)
      refine ⟨e2, e1, rfl, rfl, ?_⟩
      simp only [scheduledJob]
      split
      · simp
      · assumption
  obtain ⟨hcons, hacc, hack, htarget, hstate⟩ := hc
  have hjobs := fun x => job?_upsert o events hcons x
  rw [hacc] at hjobs
  -- scheduling acknowledges nothing
  have hackd : ∀ x, ({ o with events := events, jobs := o.jobs.upsert job } : Outbox).acknowledged x =
      o.acknowledged x := by
    intro x
    unfold Outbox.acknowledged
    rw [hjobs]
    split
    · rename_i hx
      subst hx
      exact hack
    · rfl
  refine ⟨fun x q => ?_, fun x hx => ?_, fun x j hj => ?_, fun x q => ?_, fun x hx => ?_⟩
  · rw [hlast]
    have old := s.numbered x q
    have nonneg := s.last_nonneg x
    constructor
    · rintro ⟨e, he, hx, hq⟩
      rcases (Table.mem_insert? hi).1 he with rfl | he
      · rw [if_pos hx.symm]
        rw [hx] at hseq
        omega
      · have := old.1 ⟨e, he, hx, hq⟩
        split <;> omega
    · intro hq
      by_cases hx : x = event.billingAccountId ∧ q = event.sequence
      · exact ⟨event, (Table.mem_insert? hi).2 (.inl rfl), hx.1.symm, hx.2.symm⟩
      · have : 1 ≤ q ∧ q ≤ o.last x := by
          split at hq
          · rename_i hx'
            have hne : q ≠ event.sequence := fun e => hx ⟨hx', e⟩
            rw [← hx'] at hseq
            omega
          · omega
        obtain ⟨e, he, h2⟩ := old.2 this
        exact ⟨e, (Table.mem_insert? hi).2 (.inr he), h2⟩
  · rw [hjobs]
    split
    · exact ⟨job, rfl⟩
    · rename_i hne
      rw [hlast, if_neg hne, add_zero] at hx
      exact s.scheduled x hx
  · rw [hlast]
    rw [hjobs] at hj
    split at hj
    · rename_i hx
      cases hj
      rw [if_pos hx, hx]
      exact ⟨htarget.trans hseq, h0, h1, fun _ => hstate⟩
    · rename_i hne
      rw [if_neg hne, add_zero]
      exact s.jobs x j hj
  · rw [hackd]; exact s.effects x q
  · obtain ⟨hc, e, he, h2⟩ := s.hashes x hx
    exact ⟨hc, e, (Table.mem_insert? hi).2 (.inr he), h2⟩

end Append

/-! ## Worker calls -/

section Worker

variable {digests : Digests} {account : String} {o : Outbox} {row row' : BillingJob}

/-- `row'` is another state of the job `row`: its account, consumer and target stay. -/
structure SameJob (row row' : BillingJob) : Prop where
  account : row'.billingAccountId = row.billingAccountId
  consumer : row'.consumer = row.consumer
  target : row'.targetSequence = row.targetSequence

theorem job?_put (hrow : o.job? account = some row) (same : SameJob row row') (effects : Table BillingEffect)
    (x : String) :
    ({ o with jobs := o.jobs.put row', effects := effects } : Outbox).job? x =
      if x = account then some row' else o.job? x := by
  obtain ⟨e1, e2⟩ :=
    Prod.mk.inj (Table.get?_key hrow : (row.billingAccountId, row.consumer) = (account, Xscope.consumer))
  have hk : key row' = (account, Xscope.consumer) := by
    rw [← e1, ← e2, ← same.account, ← same.consumer]; rfl
  have hg : o.jobs.get? (key row') = some row := by rw [hk]; exact hrow
  show (o.jobs.put row').get? (x, Xscope.consumer) = _
  rw [Table.get?_put hg, hk]
  simp only [Prod.mk.injEq, and_true, @eq_comm _ account]
  rfl

/-- A job moves on: the effects of the events it acknowledges are stored, and it may sleep only
when it has reached its target. -/
theorem Outbox.Sound.advance (s : o.Sound digests) (hrow : o.job? account = some row) (same : SameJob row row')
    {news : List BillingEffect} {effects : Table BillingEffect} (hm : ∀ x, x ∈ effects ↔ x ∈ news ∨ x ∈ o.effects)
    (le : row.acknowledged ≤ row'.acknowledged) (bounded : row'.acknowledged ≤ row'.targetSequence)
    (awake : row'.acknowledged < row'.targetSequence → row'.state ≠ .idle)
    (covers : ∀ q, (∃ x ∈ news, x.sequence = q) ↔ row.acknowledged < q ∧ q ≤ row'.acknowledged)
    (owned : ∀ x ∈ news, x.billingAccountId = account ∧ x.consumer = consumer ∧
      ∃ e ∈ o.events, e.billingAccountId = account ∧ e.sequence = x.sequence ∧ x.payloadSha256 = digests.event e) :
    ({ o with jobs := o.jobs.put row', effects := effects } : Outbox).Sound digests := by
  have hjobs := job?_put hrow same effects
  have old := s.jobs account row hrow
  refine ⟨s.numbered, fun x hx => ?_, fun x j hj => ?_, fun x q => ?_, fun x hx => ?_⟩
  · rw [hjobs]
    split
    · exact ⟨row', rfl⟩
    · exact s.scheduled x hx
  · rw [hjobs] at hj
    split at hj
    · rename_i hx
      cases hj
      subst hx
      exact ⟨same.target.trans old.target, le_trans old.nonneg le, bounded, awake⟩
    · exact s.jobs x j hj
  · have prior := s.effects x q
    unfold Outbox.acknowledged at prior ⊢
    rw [hjobs]
    by_cases hx : x = account
    · subst hx
      rw [if_pos rfl]
      rw [hrow] at prior
      simp only [Option.map_some, Option.getD_some] at prior ⊢
      have nonneg := old.nonneg
      have news' := covers q
      constructor
      · rintro ⟨e, he, hxa, hq⟩
        rcases (hm e).1 he with he | he
        · have := news'.1 ⟨e, he, hq⟩; omega
        · have := prior.1 ⟨e, he, hxa, hq⟩; omega
      -- what was acknowledged before has its old effect, the rest has a new one
      · intro hq
        by_cases hlt : row.acknowledged < q
        · obtain ⟨e, he, hq⟩ := news'.2 ⟨hlt, hq.2⟩
          exact ⟨e, (hm e).2 (.inl he), (owned e he).1, hq⟩
        · obtain ⟨e, he, h2⟩ := prior.2 ⟨hq.1, by omega⟩
          exact ⟨e, (hm e).2 (.inr he), h2⟩
    · rw [if_neg hx, ← prior]
      constructor
      · rintro ⟨e, he, hxa, hq⟩
        rcases (hm e).1 he with he | he
        · exact absurd (hxa.symm.trans (owned e he).1) hx
        · exact ⟨e, he, hxa, hq⟩
      · rintro ⟨e, he, h2⟩
        exact ⟨e, (hm e).2 (.inr he), h2⟩
  · rcases (hm x).1 hx with hx | hx
    · obtain ⟨h1, h2, e, he, h3, h4⟩ := owned x hx
      exact ⟨h2, e, he, h3.trans h1.symm, h4⟩
    · exact s.hashes x hx

/-- A job that acknowledges nothing new and does not fall asleep. -/
theorem Outbox.Sound.putJob (s : o.Sound digests) (row' : BillingJob) (hrow : o.job? account = some row)
    (same : SameJob row row') (hack : row'.acknowledged = row.acknowledged) (awake : row'.state ≠ .idle) :
    ({ o with jobs := o.jobs.put row' } : Outbox).Sound digests := by
  have old := s.jobs account row hrow
  exact s.advance hrow same (fun x => (by simp : x ∈ o.effects ↔ x ∈ [] ∨ x ∈ o.effects)) hack.ge
    (by rw [hack, same.target]; exact old.bounded)
    (fun _ => awake) (fun q => by simp only [List.not_mem_nil, false_and, exists_false, false_iff]; omega)
    (fun x hx => absurd hx (List.not_mem_nil))

/-! ## Batches -/

theorem mem_batch {e : BillingEvent} {low high : Int} :
    e ∈ o.batch account low high ↔
      e ∈ o.events ∧ e.billingAccountId = account ∧ low < e.sequence ∧ e.sequence ≤ high := by
  unfold Outbox.batch Table.select
  rw [List.mem_mergeSort, List.mem_filter]
  simp only [Bool.and_eq_true, beq_iff_eq, decide_eq_true_eq, and_assoc]
  rfl

theorem validateEvent_ok {event : BillingEvent} {db : Db} {r : Unit × Db} (h : validateEvent event db = .ok r) :
    r.2 = db := by
  have within : Tx.Within Eq (validateEvent event) := by
    unfold validateEvent findById selectWhere
    refine Tx.within_ite (fun _ => ?_) fun _ => Tx.within_ite (fun _ => ?_) fun _ =>
      Tx.within_ite (fun _ => ?_) fun _ => ?_
    · exact Tx.within_bind (Tx.within_read _) fun _ => Tx.within_reject _ _
    · exact Tx.within_bind (Tx.within_read _) fun _ => Tx.within_bind (Tx.within_expect _ _) fun _ =>
        Tx.within_reject _ _
    · exact Tx.within_bind (Tx.within_read _) fun _ => Tx.within_bind (Tx.within_expect _ _) fun _ =>
        Tx.within_bind (Tx.within_read _) fun _ => Tx.within_bind (Tx.within_expect _ _) fun _ => Tx.within_reject _ _
    · exact Tx.within_reject _ _
  exact (within db r.1 r.2 h).symm

/-- A batch none of whose effects is stored: its events follow each other, and each gets its
effect. -/
theorem processEvents_ok {at' : Int} {events : List BillingEvent} {low : Int} {db : Db}
    {r : (Int × List BillingEffect) × Db} (h : processEvents digests [] at' low events db = .ok r) :
    r.2 = db ∧ r.1.2 = events.map (effectOf digests at') ∧ low ≤ r.1.1 ∧
      ∀ q, (∃ e ∈ events, e.sequence = q) ↔ low < q ∧ q ≤ r.1.1 := by
  induction events generalizing low r with
  | nil =>
    obtain rfl := Tx.pure_ok.1 h
    exact ⟨rfl, rfl, le_rfl, fun q => by simp⟩
  | cons event rest ih =>
    simp only [processEvents, List.find?_nil, Tx.expect_bind, Tx.reject_bind, not_not] at h
    obtain ⟨next, hn, hs, h⟩ := h
    obtain ⟨hn, -⟩ := checkedAdd_some.1 hn
    obtain ⟨_, db', hv, hrest⟩ := Tx.bind_ok.1 h
    have same : db' = db := validateEvent_ok hv
    rw [same] at hrest
    obtain ⟨⟨last, effects⟩, db'', hr, hp⟩ := Tx.bind_ok.1 hrest
    obtain ⟨h1, h2, h3, h4⟩ := ih hr
    obtain rfl := Tx.pure_ok.1 hp
    simp only at h1 h2 h3 h4 ⊢
    refine ⟨h1, by rw [h2, List.map_cons], by omega, fun q => ?_⟩
    simp only [List.mem_cons, exists_eq_or_imp, h4]
    omega

theorem insertEffects_ok {news : List BillingEffect} {db : Db} {r : Unit × Db} (h : insertEffects news db = .ok r) :
    ∃ effects, r.2 = Slot.effects.set effects db ∧ ∀ x, x ∈ effects ↔ x ∈ news ∨ x ∈ db.outbox.effects := by
  induction news generalizing db r with
  | nil =>
    obtain rfl := Tx.pure_ok.1 h
    exact ⟨db.outbox.effects, rfl, fun x => by simp⟩
  | cons effect rest ih =>
    simp only [insertEffects, insertRow_bind] at h
    obtain ⟨-, t, ht, h⟩ := h
    obtain ⟨effects, h1, h2⟩ := ih h
    refine ⟨effects, h1, fun x => ?_⟩
    have : x ∈ t ↔ x = effect ∨ x ∈ db.outbox.effects := Table.mem_insert? ht
    rw [h2, List.mem_cons]
    show x ∈ rest ∨ x ∈ t ↔ _
    rw [this]; tauto

theorem locked_ok {now : Int} {lease : Lease} {db : Db} {r : BillingJob × Db} (h : locked now lease db = .ok r) :
    r.2 = db ∧ db.outbox.job? lease.billingAccountId = some r.1 ∧ lease.held r.1 now := by
  unfold locked at h
  simp only [findById_bind, Tx.expect_bind, Tx.reject_bind, Tx.pure_ok, not_or, not_not, not_le, ne_eq, not_lt,
    Option.all_eq_true, decide_eq_true_eq, not_forall] at h
  obtain ⟨row, hrow, ⟨h1, h2, h3, ⟨expiry, h4, h5⟩, h6, h7, h8, h9⟩, rfl⟩ := h
  exact ⟨rfl, hrow, h1, h2, h3, ⟨expiry, h4, h5⟩, h6, h7, h8, h9⟩

/-- The lease has not run out at `now`. -/
def BillingJob.live (row : BillingJob) (now : Int) : Prop := ∃ expiry ∈ row.leaseUntil, now < expiry

/-- What a worker call does: nothing, or one move of the job of one account. -/
inductive Worked (digests : Digests) (o : Outbox) : WorkerOp → Outbox → Prop where
  | nothing (op : WorkerOp) : Worked digests o op o
  | crashed {now : Int} {token : String} {skipped : List String} {request : ClaimRequest} {row : BillingJob}
      (found : o.job? row.billingAccountId = some row) (running : row.state = .running) (expired : ¬row.live now) :
      Worked digests o (.claim now token skipped request) { o with jobs := o.jobs.put (crashedJob now row) }
  | leased {now : Int} {token : String} {skipped : List String} {request : ClaimRequest} {row : BillingJob}
      {lease : Lease}
      (found : o.job? row.billingAccountId = some row) (pending : row.state = .pending)
      (epoch : lease.leaseEpoch = row.leaseEpoch + 1) :
      Worked digests o (.claim now token skipped request)
        { o with jobs := o.jobs.put (leasedJob now request.leaseSeconds row lease) }
  | completed {clock : Clock} {lease : Lease} {row : BillingJob} {news : List BillingEffect}
      {effects : Table BillingEffect}
      (found : o.job? lease.billingAccountId = some row) (held : lease.held row clock.locked)
      (live : row.live clock.final)
      (stored : ∀ x, x ∈ effects ↔ x ∈ news ∨ x ∈ o.effects)
      (covers : ∀ q, (∃ x ∈ news, x.sequence = q) ↔ row.acknowledged < q ∧ q ≤ lease.throughSequence)
      (owned : ∀ x ∈ news, x.billingAccountId = lease.billingAccountId ∧ x.consumer = consumer ∧
        ∃ e ∈ o.events, e.billingAccountId = lease.billingAccountId ∧ e.sequence = x.sequence ∧
          x.payloadSha256 = digests.event e) :
      Worked digests o (.complete clock lease)
        { o with jobs := o.jobs.put (completedJob clock.final lease.throughSequence row), effects := effects }
  | failed {lockedAt now : Int} {lease : Lease} {reason : String} {row : BillingJob}
      (found : o.job? lease.billingAccountId = some row) (held : lease.held row lockedAt) :
      Worked digests o (.fail lockedAt now lease reason) { o with jobs := o.jobs.put (failedJob now reason row) }
  | retried {now : Int} {auditId account actor reason : String} {row : BillingJob} {audits : Table OperationAudit}
      (found : o.job? account = some row) (dead : row.state = .dead) :
      Worked digests o (.retry now auditId account actor reason)
        { o with jobs := o.jobs.put (retriedJob now row), audits := audits }

theorem firstJob_mem {jobs : List BillingJob} {row : BillingJob} (h : firstJob jobs = some row) : row ∈ jobs := by
  induction jobs generalizing row with
  | nil => cases h
  | cons job rest ih =>
    simp only [firstJob] at h
    cases hr : firstJob rest with
    | none => rw [hr] at h; cases h; exact List.mem_cons_self
    | some other =>
      rw [hr] at h
      simp only [Option.some.injEq] at h
      split at h
      · subst h; exact List.mem_cons_self
      · subst h; exact List.mem_cons_of_mem _ (ih hr)

theorem claimEventJob_ok {now : Int} {token : String} {skipped : List String} {request : ClaimRequest} {db : Db}
    {r : Claimed × Db} (h : claimEventJob now token skipped request db = .ok r) :
    ∃ o, r.2 = db.withOutbox o ∧ Worked digests db.outbox (.claim now token skipped request) o := by
  unfold claimEventJob at h
  simp only [Tx.reject_bind, selectWhere_bind] at h
  obtain ⟨-, h⟩ := h
  cases hf : firstJob ((Slot.jobs.get db).select fun job => job.due now && !skipped.contains job.billingAccountId) with
  | none =>
    rw [hf] at h
    obtain rfl := Tx.pure_ok.1 h
    exact ⟨db.outbox, rfl, .nothing _⟩
  | some row =>
    rw [hf] at h
    obtain ⟨hm, hp⟩ := List.mem_filter.1 (firstJob_mem hf)
    simp only [BillingJob.due, Bool.and_eq_true, beq_iff_eq, Bool.or_eq_true] at hp
    obtain ⟨⟨⟨⟨hc, -⟩, -⟩, hstate⟩, -⟩ := hp
    have found : db.outbox.job? row.billingAccountId = some row := by
      show db.outbox.jobs.get? (row.billingAccountId, Xscope.consumer) = some row
      rw [← hc]
      exact Table.get?_of_mem hm
    by_cases hrun : row.state = .running
    · simp only [hrun, if_true, updateRow_bind, Tx.pure_ok] at h
      subst h
      have expired : ¬row.live now := by
        rintro ⟨expiry, he, hlt⟩
        rcases hstate with hp | ⟨-, hx⟩
        · rw [hrun] at hp; cases hp
        · rw [Option.mem_def.1 he] at hx
          simp only [Option.any_some, decide_eq_true_eq] at hx
          omega
      exact ⟨_, rfl, .crashed found hrun expired⟩
    · simp only [hrun, if_false] at h
      unfold leaseJob at h
      simp only [Tx.read_bind, Tx.expect_bind, updateRow_bind, Tx.pure_ok] at h
      obtain ⟨last, -, epoch, hepoch, rfl⟩ := h
      have hpending : row.state = .pending := hstate.resolve_right fun hx => hrun hx.1
      exact ⟨_, rfl, .leased found hpending (checkedAdd_some.1 hepoch).1.symm⟩

theorem failEventJob_ok {lockedAt now : Int} {lease : Lease} {reason : String} {db : Db} {r : BillingJob × Db}
    (h : failEventJob lockedAt now lease reason db = .ok r) :
    ∃ o, r.2 = db.withOutbox o ∧ Worked digests db.outbox (.fail lockedAt now lease reason) o := by
  unfold failEventJob at h
  simp only [Tx.reject_bind] at h
  obtain ⟨-, h⟩ := h
  obtain ⟨row, db', hl, hput⟩ := Tx.bind_ok.1 h
  obtain ⟨hdb, hrow, held⟩ := locked_ok hl
  simp only at hdb
  rw [hdb] at hput
  simp only [updateRow_bind, Tx.pure_ok] at hput
  subst hput
  exact ⟨_, rfl, .failed hrow held⟩

theorem retryEventJob_ok {now : Int} {auditId account actor reason : String} {db : Db} {r : BillingJob × Db}
    (h : retryEventJob now auditId account actor reason db = .ok r) :
    ∃ o, r.2 = db.withOutbox o ∧ Worked digests db.outbox (.retry now auditId account actor reason) o := by
  unfold retryEventJob at h
  simp only [Tx.reject_bind, findById_bind, Tx.expect_bind, updateRow_bind, insertRow_bind, not_not, Tx.pure_ok] at h
  obtain ⟨-, row, hrow, hdead, -, audits, -, rfl⟩ := h
  exact ⟨_, rfl, .retried hrow hdead⟩

/-- A completion of the holder acknowledges its batch together with the effects of the batch;
none of them was stored before, since effects end at what is acknowledged. -/
theorem completeEventJob_ok {clock : Clock} {lease : Lease} {db : Db} {r : Completed × Db}
    (h : completeEventJob digests clock lease db = .ok r) (s : db.outbox.Sound digests) :
    ∃ o, r.2 = db.withOutbox o ∧ Worked digests db.outbox (.complete clock lease) o := by
  unfold completeEventJob at h
  simp only [findById_bind, Tx.expect_bind] at h
  obtain ⟨_, -, h⟩ := h
  split at h
  · obtain rfl := Tx.pure_ok.1 h
    exact ⟨db.outbox, rfl, .nothing _⟩
  unfold completeLeased at h
  obtain ⟨row, db', hl, hbatch⟩ := Tx.bind_ok.1 h
  obtain ⟨hdb, hrow, held⟩ := locked_ok hl
  simp only at hdb hrow held
  rw [hdb] at hbatch
  simp only [Tx.read_bind, Tx.reject_bind, selectWhere_bind] at hbatch
  obtain ⟨-, hbatch⟩ := hbatch
  have hrowId : row.billingAccountId = lease.billingAccountId :=
    (Prod.mk.inj (Table.get?_key hrow : (row.billingAccountId, row.consumer) = _)).1
  have fresh : ((Slot.effects.get db).select fun e =>
      e.billingAccountId == row.billingAccountId && e.consumer == consumer && decide (row.acknowledged < e.sequence) &&
        decide (e.sequence ≤ lease.throughSequence)) = [] := by
    refine Table.select_nil_iff.2 fun x hx => ?_
    by_contra hp
    simp only [Bool.not_eq_false, Bool.and_eq_true, beq_iff_eq, decide_eq_true_eq] at hp
    have := ((s.effects row.billingAccountId x.sequence).1 ⟨x, hx, hp.1.1.1, rfl⟩).2
    unfold Outbox.acknowledged at this
    rw [hrowId, hrow] at this
    simp only [Option.map_some, Option.getD_some] at this
    omega
  rw [fresh] at hbatch
  obtain ⟨⟨expected, effects⟩, db₁, hpr, hinsert⟩ := Tx.bind_ok.1 hbatch
  obtain ⟨hdb₁, hnews, -, hcover⟩ := processEvents_ok hpr
  simp only at hdb₁ hnews hcover
  rw [hdb₁] at hinsert
  simp only [Tx.reject_bind, not_not, ne_eq] at hinsert
  obtain ⟨hexp, hinsert⟩ := hinsert
  subst hexp
  obtain ⟨_, db₂, hi, hput⟩ := Tx.bind_ok.1 hinsert
  obtain ⟨table, hdb₂, hstored⟩ := insertEffects_ok hi
  simp only at hdb₂
  rw [hdb₂] at hput
  simp only [Tx.reject_bind, updateRow_bind, Tx.pure_ok, Option.all_eq_true, decide_eq_true_eq, not_forall,
    not_le] at hput
  obtain ⟨⟨expiry, hexpiry, hlive⟩, rfl⟩ := hput
  refine ⟨_, rfl, .completed hrow held ⟨expiry, hexpiry, hlive⟩ hstored (fun q => ?_) fun x hx => ?_⟩
  · rw [← hcover, hnews]
    simp only [List.mem_map, exists_exists_and_eq_and]
    rfl
  · rw [hnews] at hx
    obtain ⟨e, he, rfl⟩ := List.mem_map.1 hx
    obtain ⟨he, hacc, -⟩ := mem_batch.1 (List.mem_of_mem_take he)
    exact ⟨hacc.trans hrowId, rfl, e, he, hacc.trans hrowId, rfl, rfl⟩

end Worker

end Xscope

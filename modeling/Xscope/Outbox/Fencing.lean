/-
Exactly-once delivery over whole runs: from the empty database, under any interleaving of money
operations and worker calls, the effects of an account are those of its acknowledged events, and
only the holder of the current lease acknowledges events or gives the job up.
-/
import Xscope.Outbox.Delivery

namespace Xscope

variable {digests : Digests}

/-! ## Steps -/

section Steps

variable {o o' o'' : Outbox} {op : WorkerOp} {row : BillingJob}

/-- A worker call keeps the invariant. -/
theorem Worked.sound (w : Worked digests o op o') (s : o.Sound digests) : o'.Sound digests := by
  cases w with
  | nothing => exact s
  | crashed found =>
    refine s.putJob _ found ⟨rfl, rfl, rfl⟩ rfl ?_
    simp only [crashedJob, failedState]
    split <;> simp
  | leased found => exact s.putJob _ found ⟨rfl, rfl, rfl⟩ rfl (by simp [leasedJob])
  | @completed clock lease row _ _ found held _ stored covers owned =>
    obtain ⟨-, -, -, -, hack, hlt, -, hle⟩ := held
    have same : SameJob row (completedJob clock.final lease.throughSequence row) := ⟨rfl, rfl, rfl⟩
    refine s.advance found same stored ?_ hle (fun h => ?_) covers owned
    · show row.acknowledged ≤ lease.throughSequence
      omega
    · have h : lease.throughSequence < row.targetSequence := h
      simp [completedJob, h]
  | failed found =>
    refine s.putJob _ found ⟨rfl, rfl, rfl⟩ rfl ?_
    simp only [failedJob, failedState]
    split <;> simp
  | @retried now _ _ _ _ row _ found =>
    have put := s.putJob (retriedJob now row) found ⟨rfl, rfl, rfl⟩ rfl (by simp [retriedJob])
    exact ⟨put.numbered, put.scheduled, put.jobs, put.effects, put.hashes⟩

/-- What never goes back: events and effects stay, what is acknowledged only grows, and the
epoch of a job only grows. -/
structure Advances (o o' : Outbox) : Prop where
  events : ∀ e ∈ o.events, e ∈ o'.events
  effects : ∀ x ∈ o.effects, x ∈ o'.effects
  acknowledged : ∀ account, o.acknowledged account ≤ o'.acknowledged account
  epoch : ∀ account row, o.job? account = some row →
    ∃ row', o'.job? account = some row' ∧ row.leaseEpoch ≤ row'.leaseEpoch

theorem Advances.refl (o : Outbox) : Advances o o :=
  ⟨fun _ h => h, fun _ h => h, fun _ => le_rfl, fun _ row h => ⟨row, h, le_rfl⟩⟩

theorem Advances.trans (h1 : Advances o o') (h2 : Advances o' o'') : Advances o o'' := by
  refine ⟨fun e he => h2.events e (h1.events e he), fun x hx => h2.effects x (h1.effects x hx),
    fun account => le_trans (h1.acknowledged account) (h2.acknowledged account), fun account row h => ?_⟩
  obtain ⟨row', h', le⟩ := h1.epoch account row h
  obtain ⟨row'', h'', le'⟩ := h2.epoch account row' h'
  exact ⟨row'', h'', le_trans le le'⟩

/-- What appends leave alone: a job keeps its lease, whether it is running, and what it
acknowledged. -/
structure Unleased (o o' : Outbox) : Prop where
  advances : Advances o o'
  acknowledged : ∀ account, o'.acknowledged account = o.acknowledged account
  jobs : ∀ account row', o'.job? account = some row' → row'.state = .running →
    ∃ row, o.job? account = some row ∧ row.state = .running
  running : ∀ account row row', o.job? account = some row → o'.job? account = some row' → row.state = .running →
    row'.state = .running

theorem Outbox.Appended.unleased {account : String} (h : Outbox.Appended account o o') : Unleased o o' := by
  obtain ⟨event, events, job, rfl, -, -, hi, ⟨now, hjob⟩, -, -, rfl⟩ := h.append
  have hprior : ∀ prior, o.job? event.billingAccountId = some prior →
      job = scheduledJob now event.billingAccountId event.sequence (some prior) := fun prior hp => hjob.trans (by
    show scheduledJob _ _ _ (o.job? event.billingAccountId) = _
    rw [hp])
  have hnew : o.job? event.billingAccountId = none →
      job = scheduledJob now event.billingAccountId event.sequence none :=
    fun hp => hjob.trans (by
      show scheduledJob _ _ _ (o.job? event.billingAccountId) = _
      rw [hp])
  have hid : job.consumer = consumer ∧ job.billingAccountId = event.billingAccountId := by
    cases hp : o.job? event.billingAccountId with
    | none => rw [hnew hp]; exact ⟨rfl, rfl⟩
    | some prior =>
      obtain ⟨e1, e2⟩ := Prod.mk.inj (Table.get?_key hp : (prior.billingAccountId, prior.consumer) = _)
      rw [hprior prior hp]
      exact ⟨e2, e1⟩
  have hjobs := fun x => job?_upsert o events hid.1 x
  rw [hid.2] at hjobs
  have hack : ∀ x, ({ o with events := events, jobs := o.jobs.upsert job } : Outbox).acknowledged x =
      o.acknowledged x := by
    intro x
    unfold Outbox.acknowledged
    rw [hjobs]
    split
    · rename_i hx
      subst hx
      cases hp : o.job? event.billingAccountId with
      | none => rw [hnew hp]; rfl
      | some prior => rw [hprior prior hp]; rfl
    · rfl
  -- an append schedules the job again, but neither leases it nor acknowledges
  refine ⟨⟨fun e he => (Table.mem_insert? hi).2 (.inr he), fun x hx => hx, fun x => (hack x).ge, fun x row hx => ?_⟩,
    hack, fun x row' hx hrun => ?_, fun x row row' hx hx' hrun => ?_⟩
  · rw [hjobs]
    split
    · rename_i he
      subst he
      exact ⟨job, rfl, by rw [hprior row hx]; exact le_rfl⟩
    · exact ⟨row, hx, le_rfl⟩
  · rw [hjobs] at hx
    split at hx
    · rename_i he
      subst he
      cases hx
      cases hp : o.job? event.billingAccountId with
      | none => rw [hnew hp] at hrun; cases hrun
      | some prior =>
        refine ⟨prior, rfl, ?_⟩
        rw [hprior prior hp] at hrun
        simp only [scheduledJob] at hrun
        split at hrun
        · cases hrun
        · exact hrun
    · exact ⟨row', hx, hrun⟩
  · rw [hjobs] at hx'
    split at hx'
    · rename_i he
      subst he
      cases hx'
      rw [hprior row hx]
      simp [scheduledJob, hrun]
    · rw [hx] at hx'; cases hx'; exact hrun

theorem Appends.unleased (h : Appends o o') : Unleased o o' := by
  induction h with
  | refl =>
    exact ⟨.refl o, fun _ => rfl, fun _ row' h hr => ⟨row', h, hr⟩,
    fun _ _ _ h h' hr => by rw [h] at h'; cases h'; exact hr⟩
  | tail _ step ih =>
    obtain ⟨account, step⟩ := step
    have next := step.unleased
    refine ⟨ih.advances.trans next.advances, fun x => (next.acknowledged x).trans (ih.acknowledged x),
      fun x row' h hr => ?_, fun x row row' h h' hr => ?_⟩
    · obtain ⟨mid, hm, hmr⟩ := next.jobs x row' h hr
      exact ih.jobs x mid hm hmr
    · obtain ⟨mid, hm, -⟩ := ih.advances.epoch x row h
      exact next.running x mid row' hm h' (ih.running x row mid h hm hr)

theorem Appends.sound (h : Appends o o') (s : o.Sound digests) : o'.Sound digests := by
  induction h with
  | refl => exact s
  | tail _ step ih => obtain ⟨account, step⟩ := step; exact step.sound ih

end Steps

/-! ## Fencing -/

section Fencing

variable {o o' : Outbox} {action : Action} {op : WorkerOp}

/-- A completion or failure for an account: its call speaks of the account's job. -/
def Action.lease? : Action → Option Lease
  | .worker (.complete _ lease) | .worker (.fail _ _ lease _) => some lease
  | _ => none

/-- The caller holds the current lease of the job: its epoch and token, not run out when the call
read the clock. -/
def Action.Holds (row : BillingJob) : Action → Prop
  | .worker (.complete clock lease) =>
    lease.billingAccountId = row.billingAccountId ∧ lease.held row clock.locked ∧ row.live clock.final
  | .worker (.fail lockedAt _ lease _) => lease.billingAccountId = row.billingAccountId ∧ lease.held row lockedAt
  | _ => False

/-- A claim that finds the lease of the job run out. -/
def Action.Reclaims (row : BillingJob) : Action → Prop
  | .worker (.claim now ..) => ¬row.live now
  | _ => False

/-- What one step may do to the jobs. -/
structure Fenced (action : Action) (o o' : Outbox) : Prop where
  /-- A call with a lease that is not the current one changes nothing. -/
  stale : ∀ lease row, action.lease? = some lease → o.job? lease.billingAccountId = some row →
    ¬action.Holds row → o' = o
  /-- Events are acknowledged by the completion of the holder. -/
  advance : ∀ account, o'.acknowledged account ≠ o.acknowledged account →
    ∃ row clock lease, o.job? account = some row ∧ action = .worker (.complete clock lease) ∧ action.Holds row
  /-- A running job is given up by the holder, or by a claim after its lease ran out. -/
  gives : ∀ account row row', o.job? account = some row → o'.job? account = some row' → row.state = .running →
    row'.state ≠ .running → action.Holds row ∨ action.Reclaims row
  /-- A new lease has a new epoch. -/
  takes : ∀ account row', o'.job? account = some row' → row'.state = .running →
    ∃ row, o.job? account = some row ∧ (row.state = .running ∨ row.leaseEpoch < row'.leaseEpoch)

theorem Fenced.same (action : Action) (o : Outbox) : Fenced action o o :=
  ⟨fun _ _ _ _ _ => rfl, fun _ h => absurd rfl h,
    fun _ _ _ h h' hr hn => (by rw [h] at h'; cases h'; exact absurd hr hn), fun _ row' h hr => ⟨row', h, .inl hr⟩⟩

theorem Unleased.fenced (h : Unleased o o') (op : Op) : Fenced (.money op) o o' := by
  refine ⟨fun _ _ h => (by cases h), fun x hne => absurd (h.acknowledged x) hne, fun x row row' hr hr' hrun hn => ?_,
    fun x row' hr' hrun => ?_⟩
  · exact absurd (h.running x row row' hr hr' hrun) hn
  · obtain ⟨row, hr, hrun⟩ := h.jobs x row' hr' hrun
    exact ⟨row, hr, .inl hrun⟩

/-- A move of one job by a call that may move it. -/
theorem fenced_put {account : String} {row row' : BillingJob} {effects : Table BillingEffect}
    (audits : Table OperationAudit) (found : o.job? account = some row) (same : SameJob row row')
    (stale : (∃ lease, action.lease? = some lease) → action.Holds row)
    (lease : ∀ lease, action.lease? = some lease → lease.billingAccountId = account)
    (advance : row'.acknowledged ≠ row.acknowledged → ∃ clock lease, action = .worker (.complete clock lease))
    (gives : row.state = .running → row'.state ≠ .running → action.Holds row ∨ action.Reclaims row)
    (takes : row'.state = .running → row.state = .running ∨ row.leaseEpoch < row'.leaseEpoch) :
    Fenced action o { o with jobs := o.jobs.put row', effects := effects, audits := audits } := by
  have hjobs : ∀ x, ({ o with jobs := o.jobs.put row', effects := effects, audits := audits } : Outbox).job? x =
      if x = account then some row' else o.job? x := job?_put found same effects
  refine ⟨fun l r hl hr hn => ?_, fun x hne => ?_, fun x r r' hr hr' hrun hn => ?_, fun x r' hr' hrun => ?_⟩
  · rw [lease l hl, found] at hr
    cases hr
    exact absurd (stale ⟨l, hl⟩) hn
  · unfold Outbox.acknowledged at hne
    rw [hjobs] at hne
    split at hne
    · rename_i hx
      subst hx
      rw [found] at hne
      obtain ⟨clock, l, hl⟩ := advance hne
      exact ⟨row, clock, l, found, hl, stale ⟨l, by rw [hl]; rfl⟩⟩
    · exact absurd rfl hne
  · rw [hjobs] at hr'
    split at hr'
    · rename_i hx
      subst hx
      cases hr'
      rw [found] at hr
      cases hr
      exact gives hrun hn
    · rw [hr] at hr'; cases hr'; exact absurd hrun hn
  · rw [hjobs] at hr'
    split at hr'
    · rename_i hx
      subst hx
      cases hr'
      exact ⟨row, found, takes hrun⟩
    · exact ⟨r', hr', .inl hrun⟩

theorem Worked.fenced (w : Worked digests o op o') : Fenced (.worker op) o o' := by
  cases w with
  | nothing => exact .same _ o
  | crashed found running expired =>
    refine fenced_put o.audits found ⟨rfl, rfl, rfl⟩ (fun h => ?_) (fun _ h => by cases h) (fun h => absurd rfl h)
      (fun _ _ => .inr expired) fun h => .inl running
    obtain ⟨_, h⟩ := h; cases h
  | @leased _ _ _ _ row lease found pending epoch =>
    refine fenced_put o.audits found ⟨rfl, rfl, rfl⟩ (fun h => ?_) (fun _ h => by cases h) (fun h => absurd rfl h)
      (fun h => by rw [pending] at h; cases h) fun _ => .inr ?_
    · obtain ⟨_, h⟩ := h; cases h
    · show row.leaseEpoch < lease.leaseEpoch
      omega
  | @completed clock lease row _ _ found held live _ _ _ =>
    have hid : lease.billingAccountId = row.billingAccountId :=
      (Prod.mk.inj (Table.get?_key found : (row.billingAccountId, row.consumer) = _)).1.symm
    exact fenced_put o.audits found ⟨rfl, rfl, rfl⟩ (fun _ => ⟨hid, held, live⟩) (fun l h => by cases h; rfl)
      (fun _ => ⟨clock, lease, rfl⟩) (fun _ _ => .inl ⟨hid, held, live⟩) fun _ => .inl held.1
  | @failed lockedAt _ lease _ row found held =>
    have hid : lease.billingAccountId = row.billingAccountId :=
      (Prod.mk.inj (Table.get?_key found : (row.billingAccountId, row.consumer) = _)).1.symm
    exact fenced_put o.audits found ⟨rfl, rfl, rfl⟩ (fun _ => ⟨hid, held⟩) (fun l h => by cases h; rfl)
      (fun h => absurd rfl h) (fun _ _ => .inl ⟨hid, held⟩) fun _ => .inl held.1
  | retried found dead =>
    refine fenced_put _ found ⟨rfl, rfl, rfl⟩ (fun h => ?_) (fun _ h => by cases h) (fun h => absurd rfl h)
      (fun h => by rw [dead] at h; cases h) fun h => by cases h
    obtain ⟨_, h⟩ := h; cases h

theorem Worked.advances (w : Worked digests o op o') : Advances o o' := by
  have put : ∀ {account : String} {row row' : BillingJob} {effects : Table BillingEffect}
    {audits : Table OperationAudit},
      o.job? account = some row → SameJob row row' → row.acknowledged ≤ row'.acknowledged →
      row.leaseEpoch ≤ row'.leaseEpoch → (∀ x ∈ o.effects, x ∈ effects) →
      Advances o { o with jobs := o.jobs.put row', effects := effects, audits := audits } := by
    intro account row row' effects audits found same ack epoch keeps
    have hjobs : ∀ x, ({ o with jobs := o.jobs.put row', effects := effects, audits := audits } : Outbox).job? x =
        if x = account then some row' else o.job? x := job?_put found same effects
    refine ⟨fun _ h => h, keeps, fun x => ?_, fun x r hr => ?_⟩
    · unfold Outbox.acknowledged
      rw [hjobs]
      split
      · rename_i hx; subst hx; rw [found]; exact ack
      · exact le_rfl
    · rw [hjobs]
      split
      · rename_i hx; subst hx; rw [found] at hr; cases hr; exact ⟨row', rfl, epoch⟩
      · exact ⟨r, hr, le_rfl⟩
  cases w with
  | nothing => exact .refl o
  | crashed found => exact put found ⟨rfl, rfl, rfl⟩ le_rfl le_rfl fun _ h => h
  | @leased _ _ _ _ row lease found _ epoch =>
    have : row.leaseEpoch ≤ lease.leaseEpoch := by omega
    exact put found ⟨rfl, rfl, rfl⟩ le_rfl this fun _ h => h
  | @completed _ lease row _ _ found held _ stored _ _ =>
    obtain ⟨-, -, -, -, hack, hlt, -, -⟩ := held
    have : row.acknowledged ≤ lease.throughSequence := by omega
    exact put found ⟨rfl, rfl, rfl⟩ this le_rfl fun x h => (stored x).2 (.inr h)
  | failed found => exact put found ⟨rfl, rfl, rfl⟩ le_rfl le_rfl fun _ h => h
  | retried found => exact put found ⟨rfl, rfl, rfl⟩ le_rfl le_rfl fun _ h => h

end Fencing

/-! ## Runs -/

section Runs

variable {db : Db} {action : Action}

/-- A committed worker call, or one that changed nothing. -/
theorem worked_commit {α : Type} {op : WorkerOp} {x : DbTx α}
    (h : ∀ a db', x db = .ok (a, db') → ∃ o, db' = db.withOutbox o ∧ Worked digests db.outbox op o) :
    Worked digests db.outbox op (Tx.commit x db).2.outbox := by
  rcases Tx.commit_cases x db with ⟨a, db', hx, hc⟩ | ⟨e, -, hc⟩
  · obtain ⟨o, rfl, w⟩ := h a db' hx
    rw [hc]
    exact w
  · rw [hc]
    exact .nothing op

theorem WorkerOp.worked (op : WorkerOp) (s : db.outbox.Sound digests) :
    Worked digests db.outbox op (op.run digests db).outbox := by
  cases op with
  | claim => exact worked_commit fun _ _ h => claimEventJob_ok h
  | complete => exact worked_commit fun _ _ h => completeEventJob_ok h s
  | fail => exact worked_commit fun _ _ h => failEventJob_ok h
  | retry => exact worked_commit fun _ _ h => retryEventJob_ok h

theorem Action.step (s : db.outbox.Sound digests) (action : Action) :
    (action.run digests db).outbox.Sound digests ∧ Advances db.outbox (action.run digests db).outbox ∧
      Fenced action db.outbox (action.run digests db).outbox := by
  cases action with
  | money op =>
    have h : Appends db.outbox (op.run digests db).outbox := op.appends digests db
    exact ⟨h.sound s, h.unleased.advances, h.unleased.fenced op⟩
  | worker op =>
    have w := op.worked s
    exact ⟨w.sound s, w.advances, w.fenced⟩

theorem Outbox.Sound.empty : Db.empty.outbox.Sound digests := by
  have last : ∀ account, Db.empty.outbox.last account = 0 := fun _ => rfl
  refine ⟨fun x q => ?_, fun x hx => ?_, fun x j hj => (by cases hj), fun x q => ?_,
    fun x hx => absurd hx (Table.not_mem_empty x)⟩
  · rw [last]
    exact ⟨fun ⟨e, he, _⟩ => absurd he (Table.not_mem_empty e), fun h => by omega⟩
  · rw [last] at hx; exact absurd hx (lt_irrefl 0)
  · exact ⟨fun ⟨e, he, _⟩ => absurd he (Table.not_mem_empty e), fun (h : 1 ≤ q ∧ q ≤ 0) => by omega⟩

theorem Action.runAll_step (actions : List Action) (s : db.outbox.Sound digests) :
    (Action.runAll digests actions db).outbox.Sound digests ∧
      Advances db.outbox (Action.runAll digests actions db).outbox := by
  induction actions generalizing db with
  | nil => exact ⟨s, .refl _⟩
  | cons action rest ih =>
    obtain ⟨sound, advances, -⟩ := Action.step s action
    obtain ⟨sound', advances'⟩ := ih sound
    exact ⟨sound', advances.trans advances'⟩

/-- Every acknowledged event of an account has its effect, once, and no other event has one; no
event is left without a job that is awake. -/
structure Outbox.Delivered (digests : Digests) (o : Outbox) : Prop where
  once : ∀ account, ((o.effects.select fun x => x.billingAccountId == account).map (·.sequence)).Nodup ∧
    ∀ s, s ∈ (o.effects.select fun x => x.billingAccountId == account).map (·.sequence) ↔
      1 ≤ s ∧ s ≤ o.acknowledged account
  hashed : ∀ x ∈ o.effects, ∃ e ∈ o.events, e.billingAccountId = x.billingAccountId ∧ e.sequence = x.sequence ∧
    x.payloadSha256 = digests.event e
  bounded : ∀ account row, o.job? account = some row → 0 ≤ row.acknowledged ∧ row.acknowledged ≤ row.targetSequence
  scheduled : ∀ e ∈ o.events, ∃ row, o.job? e.billingAccountId = some row ∧ e.sequence ≤ row.targetSequence ∧
    (row.acknowledged < e.sequence → row.state ≠ .idle)
  awake : ∀ account row, o.job? account = some row → row.acknowledged < row.targetSequence → row.state ≠ .idle

theorem Outbox.Sound.delivered {o : Outbox} (s : o.Sound digests) : o.Delivered digests := by
  refine ⟨fun account => ⟨?_, fun q => ?_⟩, fun x hx => (s.hashes x hx).2,
    fun account row h => ⟨(s.jobs account row h).nonneg, (s.jobs account row h).bounded⟩, fun e he => ?_,
    fun account row h => (s.jobs account row h).awake⟩
  · -- two effects of the account with one sequence have one key
    refine List.Nodup.map_on (fun x hx y hy hq => ?_) (List.Nodup.filter _ (List.Nodup.of_map _ o.effects.nodup))
    obtain ⟨hx, hxa⟩ := List.mem_filter.1 hx
    obtain ⟨hy, hya⟩ := List.mem_filter.1 hy
    refine Table.eq_of_key hx hy ?_
    show (x.billingAccountId, x.consumer, x.sequence) = (y.billingAccountId, y.consumer, y.sequence)
    rw [(s.hashes x hx).1, (s.hashes y hy).1, hq, beq_iff_eq.1 hxa, beq_iff_eq.1 hya]
  · rw [← s.effects account q]
    simp only [List.mem_map, Table.select, List.mem_filter, beq_iff_eq, and_assoc]
    rfl
  · obtain ⟨h1, h2⟩ := (s.numbered e.billingAccountId e.sequence).1 ⟨e, he, rfl, rfl⟩
    obtain ⟨row, hrow⟩ := s.scheduled e.billingAccountId (by omega)
    have job := s.jobs _ row hrow
    refine ⟨row, hrow, by rw [job.target]; exact h2, fun h => job.awake ?_⟩
    rw [job.target]; omega

/-- In every run from the empty database the events are delivered exactly once, deliveries are
never taken back, and every step is fenced. -/
theorem Action.runAll_delivered (digests : Digests) (before after : List Action) (action : Action) :
    let db := Action.runAll digests before Db.empty
    db.outbox.Delivered digests ∧ Advances db.outbox (Action.runAll digests after db).outbox ∧
      Fenced action db.outbox (action.run digests db).outbox := by
  intro db
  have sound : db.outbox.Sound digests := (Action.runAll_step before Outbox.Sound.empty).1
  exact ⟨sound.delivered, (Action.runAll_step after sound).2, (Action.step sound action).2.2⟩

end Runs

end Xscope

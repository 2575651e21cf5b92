/-
A consumer cursor never skips an event. Both fields of a cursor only grow and stay in order, below
the last event of the account; every event up to what is delivered was in a response; and an
acknowledgement beyond it is refused.
-/
import Xscope.Feed.Poll

namespace Xscope

variable {digests : Digests}

/-! ## Acknowledgements -/

section Acknowledged

variable {row : BillingConsumer} {ack : AckRequest}

theorem acknowledged_some {n : Int} (h : acknowledged row (some ack) = .ok n) :
    n = ack.sequence ∧ 0 ≤ ack.sequence ∧ (n = row.acknowledged ∨
      ack.expectedSequence = row.acknowledged ∧ row.acknowledged ≤ n ∧ n ≤ row.delivered) := by
  simp only [acknowledged] at h
  split at h
  · cases h
  · rename_i valid
    rw [not_or, not_lt, not_lt] at valid
    split at h
    · rename_i same
      cases h
      exact ⟨same.symm, valid.1, .inl rfl⟩
    · split at h
      · cases h
      · rename_i bounds
        cases h
        exact ⟨rfl, valid.1, .inr (by omega)⟩

/-- An accepted acknowledgement moves forward, within what is delivered. -/
theorem acknowledged_bounds {request : Option AckRequest} {n : Int} (h : acknowledged row request = .ok n)
    (ordered : row.acknowledged ≤ row.delivered) : row.acknowledged ≤ n ∧ n ≤ row.delivered := by
  cases request with
  | none => cases h; exact ⟨le_rfl, ordered⟩
  | some ack =>
    obtain ⟨-, -, rfl | ⟨-, bounds⟩⟩ := acknowledged_some h
    · exact ⟨le_rfl, ordered⟩
    · exact bounds

/-- An acknowledgement beyond what is delivered is refused. -/
theorem acknowledged_beyond (ordered : row.acknowledged ≤ row.delivered) (beyond : row.delivered < ack.sequence) :
    ∃ e, acknowledged row (some ack) = .error e := by
  cases h : acknowledged row (some ack) with
  | error e => exact ⟨e, rfl⟩
  | ok n =>
    obtain ⟨rfl, -, -⟩ := acknowledged_some h
    have := (acknowledged_bounds h ordered).2
    omega

end Acknowledged

/-! ## Pages -/

section Pages

variable {o : Outbox} {row : BillingConsumer} {request : PollRequest} {p : Page}

theorem mem_eventsAfter {e : BillingEvent} {account : String} {low : Int} :
    e ∈ o.eventsAfter account low ↔ e ∈ o.events ∧ e.billingAccountId = account ∧ low < e.sequence := by
  unfold Outbox.eventsAfter Table.select
  rw [List.mem_mergeSort, List.mem_filter]
  simp only [Bool.and_eq_true, beq_iff_eq, decide_eq_true_eq]
  rfl

theorem eventsAfter_sorted (account : String) (low : Int) :
    (o.eventsAfter account low).Pairwise fun a b => a.sequence ≤ b.sequence := by
  exact mergeSort_sorted BillingEvent.sequence _

/-- A page holds the first events after what it acknowledges. -/
theorem page_ok (h : page o row request = .ok p) : acknowledged row request.ack = .ok p.acknowledged ∧
    p.events = (o.eventsAfter row.billingAccountId p.acknowledged).take request.limit ∧
    p.delivered = (p.events.getLast?.map fun e => max row.delivered e.sequence).getD row.delivered := by
  unfold page at h
  cases ha : acknowledged row request.ack with
  | error e => rw [ha] at h; cases h
  | ok n =>
    rw [ha] at h
    cases h
    refine ⟨rfl, ?_, rfl⟩
    show (if decide (request.limit < ((o.eventsAfter row.billingAccountId n).take (request.limit + 1)).length) =
      true then _ else _) = _
    generalize o.eventsAfter row.billingAccountId n = l
    simp only [decide_eq_true_eq, List.length_take]
    split
    · rw [List.dropLast_eq_take, List.take_take, List.length_take]
      congr 1
      omega
    · rw [List.take_of_length_le (by omega), List.take_of_length_le (by omega)]

/-- A page of events that are listed in their order. -/
theorem page_listed (o : Outbox) (row : BillingConsumer) (request : PollRequest) {ack : Int}
    {listed : List BillingEvent} (accepted : acknowledged row request.ack = .ok ack)
    (perm : listed.Perm (o.events.select fun e => e.billingAccountId == row.billingAccountId &&
    decide (ack < e.sequence)))
    (strict : listed.Pairwise fun a b => a.sequence < b.sequence) :
    ∃ p, page o row request = .ok p ∧ p.acknowledged = ack ∧ p.events = listed.take request.limit ∧
      p.delivered = ((listed.take request.limit).getLast?.map fun e => max row.delivered e.sequence).getD
        row.delivered := by
  obtain ⟨p, hp⟩ : ∃ p, page o row request = .ok p := by
    unfold page
    rw [accepted]
    exact ⟨_, rfl⟩
  obtain ⟨same, events, delivered⟩ := page_ok hp
  obtain rfl : p.acknowledged = ack := Except.ok.inj (same.symm.trans accepted)
  have sorted : o.eventsAfter row.billingAccountId p.acknowledged = listed :=
    mergeSort_eq BillingEvent.sequence perm strict
  rw [sorted] at events
  exact ⟨p, hp, rfl, events, by rw [delivered, events]⟩

/-- A page ends at the events it holds, or where the cursor was. -/
theorem page_delivered (h : page o row request = .ok p) : row.delivered ≤ p.delivered ∧
    (p.delivered = row.delivered ∨ ∃ e ∈ p.events, e.sequence = p.delivered) := by
  obtain ⟨-, -, hd⟩ := page_ok h
  cases hl : p.events.getLast? with
  | none =>
    rw [hl] at hd
    exact ⟨hd.ge, .inl hd⟩
  | some last =>
    rw [hl] at hd
    have hd : p.delivered = max row.delivered last.sequence := hd
    rcases max_choice row.delivered last.sequence with hm | hm
    · exact ⟨by omega, .inl (hd.trans hm)⟩
    · exact ⟨by omega, .inr ⟨last, List.mem_of_getLast? hl, (hd.trans hm).symm⟩⟩

/-- Every event between what a page acknowledges and where it ends is on the page, or was delivered before. -/
theorem page_covers (h : page o row request = .ok p) {e : BillingEvent} (he : e ∈ o.events)
    (own : e.billingAccountId = row.billingAccountId) (low : p.acknowledged < e.sequence)
    (high : e.sequence ≤ p.delivered) : e.sequence ≤ row.delivered ∨ e ∈ p.events := by
  obtain ⟨-, events, -⟩ := page_ok h
  obtain ⟨-, same | ⟨last, hl, hs⟩⟩ := page_delivered h
  · exact .inl (by omega)
  · refine .inr ?_
    have hm : e ∈ o.eventsAfter row.billingAccountId p.acknowledged := mem_eventsAfter.2 ⟨he, own, low⟩
    rw [events] at hl ⊢
    rw [← List.take_append_drop request.limit (o.eventsAfter row.billingAccountId p.acknowledged),
      List.mem_append] at hm
    refine hm.resolve_right fun hdrop => ?_
    -- an event after the page is not before its last event
    have sorted := eventsAfter_sorted (o := o) row.billingAccountId p.acknowledged
    rw [← List.take_append_drop request.limit (o.eventsAfter row.billingAccountId p.acknowledged),
      List.pairwise_append] at sorted
    have le := sorted.2.2 last hl e hdrop
    obtain ⟨hlm, hla, -⟩ := mem_eventsAfter.1 (List.mem_of_mem_take hl)
    have eq : last = e :=
      Table.eq_of_key hlm he (Prod.ext (hla.trans own.symm) (by show last.sequence = e.sequence; omega))
    have nodup : (o.eventsAfter row.billingAccountId p.acknowledged).Nodup := by
      unfold Outbox.eventsAfter
      exact (List.mergeSort_perm _ _).nodup_iff.2 (List.Nodup.filter _ (List.Nodup.of_map _ o.events.nodup))
    rw [← List.take_append_drop request.limit (o.eventsAfter row.billingAccountId p.acknowledged),
      List.nodup_append] at nodup
    exact nodup.2.2 last hl e hdrop eq

/-- A page that acknowledges more than is delivered is refused. -/
theorem page_beyond {ack : AckRequest} (carries : request.ack = some ack) (ordered : row.acknowledged ≤ row.delivered)
    (beyond : row.delivered < ack.sequence) : ∃ e, page o row request = .error e := by
  obtain ⟨e, he⟩ := acknowledged_beyond ordered beyond
  refine ⟨e, ?_⟩
  unfold page
  rw [carries, he]
  rfl

end Pages

/-! ## The invariant -/

/-- A cursor is in order and below the last event of its account. -/
structure BillingConsumer.Sound (row : BillingConsumer) (last : Int) : Prop where
  nonneg : 0 ≤ row.acknowledged
  ordered : row.acknowledged ≤ row.delivered
  bounded : row.delivered ≤ last

/-- Every event up to what the cursor has delivered was in a response to its consumer. -/
def Responded (events : Table BillingEvent) (done : List Outcome) (row : BillingConsumer) : Prop :=
  ∀ e ∈ events, e.billingAccountId = row.billingAccountId → e.sequence ≤ row.delivered →
    ∃ row' response, .polled row' response ∈ done ∧ key row' = key row ∧ e ∈ response.data

namespace Pending

/-- The cursor as the call read it. -/
def row : Pending → BillingConsumer
  | .polled row _ | .locking row _ | .acking row _ => row

/-- The acknowledgement a call carries. -/
def ack : Pending → Option AckRequest
  | .polled _ request | .locking _ request => request.ack
  | .acking _ request => some request

end Pending

namespace Feed

/-- What a cursor has delivered, zero before its first poll. -/
def delivered (feed : Feed) (k : String × String) : Int := ((feed.consumers.get? k).map (·.delivered)).getD 0

theorem delivered_of_get? {feed : Feed} {k : String × String} {row : BillingConsumer}
    (h : feed.consumers.get? k = some row) :
    feed.delivered k = row.delivered := by
  unfold delivered
  rw [h]
  rfl

structure Sound (digests : Digests) (feed : Feed) : Prop where
  outbox : feed.db.outbox.Sound digests
  cursors : ∀ row ∈ feed.consumers, row.Sound (feed.db.outbox.last row.billingAccountId)
  responded : ∀ row ∈ feed.consumers, Responded feed.db.outbox.events feed.done row
  -- what a call read without a lock is behind the cursor
  calls : ∀ p call, feed.calls p = some call →
    0 ≤ call.row.acknowledged ∧ call.row.acknowledged ≤ call.row.delivered ∧
      call.row.delivered ≤ feed.delivered (key call.row)

/-- Cursors stay and only grow, responses are never taken back. -/
structure Advances (feed feed' : Feed) : Prop where
  cursors : ∀ k row, feed.consumers.get? k = some row →
    ∃ row', feed'.consumers.get? k = some row' ∧ row.acknowledged ≤ row'.acknowledged ∧ row.delivered ≤ row'.delivered
  done : ∀ x ∈ feed.done, x ∈ feed'.done

theorem Advances.refl (feed : Feed) : feed.Advances feed := ⟨fun _ row h => ⟨row, h, le_rfl, le_rfl⟩, fun _ h => h⟩

theorem Advances.trans {a b c : Feed} (h : a.Advances b) (h' : b.Advances c) : a.Advances c := by
  refine ⟨fun k row hr => ?_, fun x hx => h'.done x (h.done x hx)⟩
  obtain ⟨row', hr', la, ld⟩ := h.cursors k row hr
  obtain ⟨row'', hr'', la', ld'⟩ := h'.cursors k row' hr'
  exact ⟨row'', hr'', le_trans la la', le_trans ld ld'⟩

theorem Sound.delivered_nonneg {feed : Feed} (s : feed.Sound digests) (k : String × String) : 0 ≤ feed.delivered k := by
  unfold delivered
  cases h : feed.consumers.get? k with
  | none => exact le_rfl
  | some row =>
    have row' := s.cursors row (Table.get?_mem h)
    exact le_trans row'.nonneg row'.ordered

end Feed

theorem Responded.mono {events : Table BillingEvent} {done done' : List Outcome} {row : BillingConsumer}
    (h : Responded events done row) (kept : ∀ x ∈ done, x ∈ done') : Responded events done' row := by
  intro e he own le
  obtain ⟨row', response, hd, rest⟩ := h e he own le
  exact ⟨row', response, kept _ hd, rest⟩

/-- Before the first poll nothing is delivered. -/
theorem Outbox.Sound.responded_zero {o : Outbox} (s : o.Sound digests) {row : BillingConsumer}
    (zero : row.delivered = 0) (done : List Outcome) : Responded o.events done row := by
  intro e he own le
  have := ((s.numbered e.billingAccountId e.sequence).1 ⟨e, he, rfl, rfl⟩).1
  omega

/-! ## Steps -/

namespace Feed

section Steps

variable {feed : Feed} {process : Nat} {row : BillingConsumer}

/-- A call ends or goes on, and the cursors stay. -/
theorem Sound.keep (s : feed.Sound digests) {calls : Nat → Option Pending} {done : List Outcome}
    (kept : ∀ x ∈ feed.done, x ∈ done) (behind : ∀ p call, calls p = some call →
      0 ≤ call.row.acknowledged ∧ call.row.acknowledged ≤ call.row.delivered ∧
        call.row.delivered ≤ feed.delivered (key call.row)) :
    ({ feed with calls := calls, done := done } : Feed).Sound digests ∧
      feed.Advances { feed with calls := calls, done := done } :=
  ⟨⟨s.outbox, s.cursors, fun row hr => (s.responded row hr).mono kept, behind⟩,
    ⟨fun _ row h => ⟨row, h, le_rfl, le_rfl⟩, kept⟩⟩

/-- The calls after one of them ended. -/
theorem setCall_none {p : Nat} {call : Pending} (h : (if p = process then none else feed.calls p) = some call) :
    feed.calls p = some call := by
  split at h
  · cases h
  · exact h

theorem Sound.finish (s : feed.Sound digests) (process : Nat) (outcome : Outcome) :
    (feed.finish process outcome).Sound digests ∧ feed.Advances (feed.finish process outcome) :=
  s.keep (fun _ h => List.mem_cons_of_mem _ h) fun p call h => s.calls p call (setCall_none h)

theorem Sound.setCall (s : feed.Sound digests) (process : Nat) (call : Pending) (nonneg : 0 ≤ call.row.acknowledged)
    (ordered : call.row.acknowledged ≤ call.row.delivered)
    (behind : call.row.delivered ≤ feed.delivered (key call.row)) :
    (feed.setCall process (some call)).Sound digests ∧ feed.Advances (feed.setCall process (some call)) := by
  refine s.keep (fun _ h => h) fun p other h => ?_
  change (if p = process then some call else feed.calls p) = some other at h
  split at h
  · cases h
    exact ⟨nonneg, ordered, behind⟩
  · exact s.calls p other h

/-- A cursor moves forward, and every event it passes is in a response. -/
theorem Sound.store (s : feed.Sound digests) (next : BillingConsumer) {consumers : Table BillingConsumer}
    {outcome : Outcome} (stored : ∀ k, consumers.get? k = if key next = k then some next else feed.consumers.get? k)
    (grows : ∀ row, feed.consumers.get? (key next) = some row → row.acknowledged ≤ next.acknowledged ∧
    row.delivered ≤ next.delivered)
    (sound : next.Sound (feed.db.outbox.last next.billingAccountId))
    (responded : Responded feed.db.outbox.events (outcome :: feed.done) next) :
    (({ feed with consumers := consumers } : Feed).finish process outcome).Sound digests ∧
      feed.Advances (({ feed with consumers := consumers } : Feed).finish process outcome) := by
  have advances : ∀ k row, feed.consumers.get? k = some row →
      ∃ row', consumers.get? k = some row' ∧ row.acknowledged ≤ row'.acknowledged ∧ row.delivered ≤ row'.delivered := by
    intro k row hr
    rw [stored]
    split
    · rename_i hk
      subst hk
      exact ⟨next, rfl, grows row hr⟩
    · exact ⟨row, hr, le_rfl, le_rfl⟩
  have origin : ∀ row ∈ consumers, row = next ∨ row ∈ feed.consumers := by
    intro row hr
    have found := Table.get?_of_mem hr
    rw [stored] at found
    split at found
    · exact .inl (Option.some.inj found).symm
    · exact .inr (Table.get?_mem found)
  refine ⟨⟨s.outbox, fun row hr => ?_, fun row hr => ?_, fun p call h => ?_⟩, advances,
    fun _ h => List.mem_cons_of_mem _ h⟩
  · rcases origin row hr with rfl | hr
    · exact sound
    · exact s.cursors row hr
  · rcases origin row hr with rfl | hr
    · exact responded
    · exact (s.responded row hr).mono fun _ h => List.mem_cons_of_mem _ h
  · obtain ⟨nonneg, ordered, behind⟩ := s.calls p call (setCall_none h)
    refine ⟨nonneg, ordered, le_trans behind ?_⟩
    show feed.delivered (key call.row) ≤ ((consumers.get? (key call.row)).map (·.delivered)).getD 0
    unfold delivered
    cases hg : feed.consumers.get? (key call.row) with
    | some cur =>
      obtain ⟨cur', hg', -, le⟩ := advances _ cur hg
      rw [hg']
      exact le
    | none =>
      rw [stored, hg]
      split
      · exact le_trans sound.nonneg sound.ordered
      · exact le_rfl

/-- The cursor read under the lock: the one stored, or the one a first poll brings. -/
structure Current (feed : Feed) (row cur : BillingConsumer) : Prop where
  key : key cur = key row
  sound : cur.Sound (feed.db.outbox.last cur.billingAccountId)
  responded : Responded feed.db.outbox.events feed.done cur
  delivered : cur.delivered = feed.delivered (Keyed.key row)
  stored : ∀ x, feed.consumers.get? (Keyed.key row) = some x → x = cur

theorem Sound.current (s : feed.Sound digests) (nonneg : 0 ≤ row.acknowledged)
    (ordered : row.acknowledged ≤ row.delivered) (behind : row.delivered ≤ feed.delivered (key row)) :
    feed.Current row ((feed.consumers.get? (key row)).getD row) := by
  cases hg : feed.consumers.get? (key row) with
  | some cur =>
    obtain ⟨hm, hk⟩ := Table.get?_some_iff.1 hg
    refine ⟨hk, s.cursors cur hm, s.responded cur hm, (delivered_of_get? hg).symm, fun x hx => ?_⟩
    rw [hg] at hx
    exact (Option.some.inj hx).symm
  | none =>
    have zero : feed.delivered (key row) = 0 := by unfold delivered; rw [hg]; rfl
    have start : row.delivered = 0 := by omega
    refine ⟨rfl, ⟨nonneg, ordered, ?_⟩, s.outbox.responded_zero start _, start.trans zero.symm, fun x hx => ?_⟩
    · have := s.outbox.last_nonneg row.billingAccountId
      show row.delivered ≤ feed.db.outbox.last row.billingAccountId
      omega
    · rw [hg] at hx
      cases hx

theorem register_get? (feed : Feed) (row : BillingConsumer) (k : String × String) :
    (feed.register row).consumers.get? k =
      if key row = k then some ((feed.consumers.get? (key row)).getD row) else feed.consumers.get? k := by
  show ((feed.consumers.insert? row).getD feed.consumers).get? k = _
  cases hi : feed.consumers.insert? row with
  | none =>
    obtain ⟨x, hx⟩ := Table.insert?_none_iff.1 hi
    rw [hx]
    split
    · rename_i hk
      rw [← hk]
      exact hx
    · rfl
  | some t =>
    rw [(Table.insert?_some hi).1]
    exact Table.get?_insert? hi k

theorem Sound.poll (s : feed.Sound digests) (process : Nat) (project name : String) (request : PollRequest) :
    (feed.poll process project name request).Sound digests ∧
      feed.Advances (feed.poll process project name request) := by
  unfold Feed.poll
  split
  · exact s.finish process _
  · cases feed.accountId project with
    | error e => exact s.finish process _
    | ok account =>
      simp only
      cases hg : feed.consumers.get? (account, name) with
      | none =>
        have := s.delivered_nonneg (account, name)
        exact s.setCall process (.polled _ _) le_rfl le_rfl this
      | some row =>
        obtain ⟨hm, hk⟩ := Table.get?_some_iff.1 hg
        have sound := s.cursors row hm
        refine s.setCall process (.polled _ _) sound.nonneg sound.ordered ?_
        show row.delivered ≤ feed.delivered (key row)
        rw [hk]
        exact (delivered_of_get? hg).ge

theorem Sound.ack (s : feed.Sound digests) (process : Nat) (project name : String) (request : AckRequest) :
    (feed.ack process project name request).Sound digests ∧ feed.Advances (feed.ack process project name request) := by
  unfold Feed.ack
  split
  · exact s.finish process _
  · cases feed.accountId project with
    | error e => exact s.finish process _
    | ok account =>
      simp only
      cases hg : feed.consumers.get? (account, name) with
      | none => exact s.finish process _
      | some row =>
        obtain ⟨hm, hk⟩ := Table.get?_some_iff.1 hg
        have sound := s.cursors row hm
        simp only
        cases Xscope.acknowledged row (some request) with
        | error e => exact s.finish process _
        | ok n =>
          simp only
          split
          · exact s.finish process _
          · refine s.setCall process (.acking _ _) sound.nonneg sound.ordered ?_
            show row.delivered ≤ feed.delivered (key row)
            rw [hk]
            exact (delivered_of_get? hg).ge

theorem Sound.pageUnlocked (s : feed.Sound digests) (process : Nat) (request : PollRequest)
    (nonneg : 0 ≤ row.acknowledged) (ordered : row.acknowledged ≤ row.delivered)
    (behind : row.delivered ≤ feed.delivered (key row)) :
    (feed.pageUnlocked process row request).Sound digests ∧ feed.Advances (feed.pageUnlocked process row request) := by
  unfold Feed.pageUnlocked
  cases page feed.db.outbox row request with
  | error e => exact s.finish process _
  | ok result =>
    simp only
    split
    · exact s.setCall process (.locking _ _) nonneg ordered behind
    · -- nothing moves: at most the row of a first poll is added
      have cur := s.current nonneg ordered behind
      refine s.store ((feed.consumers.get? (key row)).getD row) (fun k => ?_) (fun x hx => ?_) cur.sound
        (cur.responded.mono fun _ h => List.mem_cons_of_mem _ h)
      · rw [cur.key]
        exact register_get? feed row k
      · rw [cur.key] at hx
        rw [cur.stored x hx]
        exact ⟨le_rfl, le_rfl⟩

/-- The locked page delivers every event it moves the cursor past. -/
theorem Current.page {cur : BillingConsumer} {request : PollRequest} {result : Page} (c : feed.Current row cur)
    (s : feed.Sound digests) (h : Xscope.page feed.db.outbox cur request = .ok result) :
    let next : BillingConsumer := { cur with acknowledged := result.acknowledged, delivered := result.delivered }
    next.Sound (feed.db.outbox.last next.billingAccountId) ∧ cur.acknowledged ≤ next.acknowledged ∧
      cur.delivered ≤ next.delivered ∧
      Responded feed.db.outbox.events (.polled next result.response :: feed.done) next := by
  intro next
  obtain ⟨ack, events, -⟩ := page_ok h
  obtain ⟨la, lb⟩ := acknowledged_bounds ack c.sound.ordered
  obtain ⟨ld, last⟩ := page_delivered h
  refine ⟨⟨le_trans c.sound.nonneg la, le_trans lb ld, ?_⟩, la, ld, fun e he own le => ?_⟩
  · rcases last with same | ⟨e, he, hs⟩
    · show result.delivered ≤ _
      rw [same]
      exact c.sound.bounded
    · rw [events] at he
      obtain ⟨hm, ha, -⟩ := mem_eventsAfter.1 (List.mem_of_mem_take he)
      show result.delivered ≤ feed.db.outbox.last cur.billingAccountId
      rw [← hs, ← ha]
      exact ((s.outbox.numbered e.billingAccountId e.sequence).1 ⟨e, hm, rfl, rfl⟩).2
  · have before : e.sequence ≤ cur.delivered ∨ e ∈ result.events := by
      rcases lt_or_ge result.acknowledged e.sequence with low | high
      · exact page_covers h he own low le
      · exact .inl (by omega)
    rcases before with old | new
    · obtain ⟨row', response, hd, hk, hr⟩ := c.responded e he own old
      exact ⟨row', response, List.mem_cons_of_mem _ hd, hk, hr⟩
    · exact ⟨next, result.response, List.mem_cons_self, rfl, new⟩

theorem Sound.pageLocked (s : feed.Sound digests) (process : Nat) (request : PollRequest)
    (nonneg : 0 ≤ row.acknowledged) (ordered : row.acknowledged ≤ row.delivered)
    (behind : row.delivered ≤ feed.delivered (key row)) :
    (feed.pageLocked process row request).Sound digests ∧ feed.Advances (feed.pageLocked process row request) := by
  have current := s.current nonneg ordered behind
  unfold Feed.pageLocked
  simp only
  generalize (feed.consumers.get? (key row)).getD row = cur at current
  cases hp : Xscope.page feed.db.outbox cur request with
  | error e => exact s.finish process _
  | ok result =>
    simp only
    obtain ⟨sound, la, ld, responded⟩ := current.page s hp
    have found : (feed.register cur).consumers.get? (key cur) = some cur := by
      rw [register_get?, if_pos rfl, current.key]
      cases hg : feed.consumers.get? (key row) with
      | none => rfl
      | some x => rw [current.stored x hg]; rfl
    have others (k : String × String) (hk : key cur ≠ k) : (feed.register cur).consumers.get? k =
        feed.consumers.get? k := by
      rw [register_get?, if_neg hk]
    split
    · let next : BillingConsumer := { cur with acknowledged := result.acknowledged, delivered := result.delivered }
      refine s.store next (fun k => ?_) (fun x hx => ?_) sound responded
      · show ((feed.register cur).consumers.put next).get? k = _
        rw [Table.get?_put_at (show key next = key cur from rfl) found]
        split
        · rename_i hk
          rw [if_pos (show key next = k from hk)]
        · rename_i hk
          rw [if_neg (show ¬key next = k from hk)]
          exact others k hk
      · have : x = cur := current.stored x (by rw [← current.key]; exact hx)
        rw [this]
        exact ⟨la, ld⟩
    · refine s.store cur (fun k => ?_) (fun x hx => ?_) current.sound
        (current.responded.mono fun _ h => List.mem_cons_of_mem _ h)
      · split
        · rename_i hk
          rw [← hk]
          exact found
        · exact others k ‹_›
      · rw [current.stored x (by rw [← current.key]; exact hx)]
        exact ⟨le_rfl, le_rfl⟩

theorem Sound.ackLocked (s : feed.Sound digests) (process : Nat) (row : BillingConsumer) (request : AckRequest) :
    (feed.ackLocked process row request).Sound digests ∧ feed.Advances (feed.ackLocked process row request) := by
  unfold Feed.ackLocked
  cases hg : feed.consumers.get? (key row) with
  | none => exact s.finish process _
  | some cur =>
    obtain ⟨hm, hk⟩ := Table.get?_some_iff.1 hg
    have sound := s.cursors cur hm
    simp only
    cases ha : Xscope.acknowledged cur (some request) with
    | error e => exact s.finish process _
    | ok n =>
      simp only
      split
      · exact s.finish process _
      · obtain ⟨la, lb⟩ := acknowledged_bounds ha sound.ordered
        let next : BillingConsumer := { cur with acknowledged := n }
        have keyed : key next = key row := hk
        refine s.store next (fun k => ?_) (fun x hx => ?_) ⟨le_trans sound.nonneg la, lb, sound.bounded⟩
          ((s.responded cur hm).mono fun _ h => List.mem_cons_of_mem _ h)
        · rw [keyed]
          exact Table.get?_put_at keyed hg k
        · rw [keyed, hg] at hx
          cases hx
          exact ⟨la, le_rfl⟩

theorem Sound.next (s : feed.Sound digests) (process : Nat) :
    (feed.next process).Sound digests ∧ feed.Advances (feed.next process) := by
  unfold Feed.next
  cases hc : feed.calls process with
  | none => exact ⟨s, .refl feed⟩
  | some call =>
    obtain ⟨nonneg, ordered, behind⟩ := s.calls process call hc
    cases call with
    | polled row request => exact s.pageUnlocked process request nonneg ordered behind
    | locking row request => exact s.pageLocked process request nonneg ordered behind
    | acking row request => exact s.ackLocked process row request

/-! ## Refusals -/

/-- A call that acknowledges more than is delivered has no effect but its failure. -/
def Refused (feed feed' : Feed) : Prop :=
  feed'.db = feed.db ∧ feed'.consumers = feed.consumers ∧ ∃ e, feed'.done = .failed e :: feed.done

theorem refused_finish (feed : Feed) (process : Nat) (e : ServiceError) :
    feed.Refused (feed.finish process (.failed e)) := ⟨rfl, rfl, e, rfl⟩

theorem Sound.next_refused (s : feed.Sound digests) {call : Pending} {ack : AckRequest}
    (hc : feed.calls process = some call) (carries : call.ack = some ack)
    (beyond : feed.delivered (key call.row) < ack.sequence) : feed.Refused (feed.next process) := by
  obtain ⟨nonneg, ordered, behind⟩ := s.calls process call hc
  unfold Feed.next
  rw [hc]
  cases call with
  | polled row request =>
    obtain ⟨e, he⟩ : ∃ e, page feed.db.outbox row request = .error e :=
      page_beyond carries ordered (lt_of_le_of_lt behind beyond)
    show feed.Refused (feed.pageUnlocked process row request)
    unfold Feed.pageUnlocked
    rw [he]
    exact refused_finish feed process e
  | locking row request =>
    have cur := s.current nonneg ordered behind
    obtain ⟨e, he⟩ : ∃ e, page feed.db.outbox ((feed.consumers.get? (key row)).getD row) request = .error e :=
      page_beyond carries cur.sound.ordered (lt_of_eq_of_lt cur.delivered beyond)
    show feed.Refused (feed.pageLocked process row request)
    unfold Feed.pageLocked
    simp only
    rw [he]
    exact refused_finish feed process e
  | acking row request =>
    cases carries
    show feed.Refused (feed.ackLocked process row ack)
    unfold Feed.ackLocked
    cases hg : feed.consumers.get? (key row) with
    | none => exact refused_finish feed process _
    | some cur =>
      obtain ⟨e, he⟩ := acknowledged_beyond (s.cursors cur (Table.get?_mem hg)).ordered
        (lt_of_eq_of_lt (delivered_of_get? hg).symm beyond)
      simp only
      rw [he]
      exact refused_finish feed process e

theorem Sound.ack_refused (s : feed.Sound digests) (process : Nat) {project name account : String}
    {request : AckRequest} (ha : feed.accountId project = .ok account)
    (beyond : feed.delivered (account, name) < request.sequence) :
    feed.Refused (feed.ack process project name request) := by
  unfold Feed.ack
  split
  · exact refused_finish feed process _
  · rw [ha]
    simp only
    cases hg : feed.consumers.get? (account, name) with
    | none => exact refused_finish feed process _
    | some row =>
      obtain ⟨e, he⟩ := acknowledged_beyond (s.cursors row (Table.get?_mem hg)).ordered
        (lt_of_eq_of_lt (delivered_of_get? hg).symm beyond)
      simp only
      rw [he]
      exact refused_finish feed process e

end Steps

end Feed

/-! ## Runs -/

/-- The control plane writes: events are added after the last one of their account. -/
theorem Feed.Sound.write {feed : Feed} (s : feed.Sound digests) (action : Action) :
    (FeedStep.run digests (.write action) feed).Sound digests ∧
      feed.Advances (FeedStep.run digests (.write action) feed) := by
  obtain ⟨sound, advances, -⟩ := Action.step s.outbox action
  let db' : Db := action.run digests feed.db
  have later : ∀ account, feed.db.outbox.last account ≤ db'.outbox.last account := by
    intro account
    rcases le_or_gt (feed.db.outbox.last account) 0 with none | some
    · exact le_trans none (sound.last_nonneg account)
    · obtain ⟨e, he, own, hs⟩ := (s.outbox.numbered account (feed.db.outbox.last account)).2 ⟨by omega, le_rfl⟩
      exact ((sound.numbered account (feed.db.outbox.last account)).1 ⟨e, advances.events e he, own, hs⟩).2
  refine ⟨⟨sound, fun row hr => ?_, fun row hr e he own le => ?_, s.calls⟩,
    ⟨fun _ row h => ⟨row, h, le_rfl, le_rfl⟩, fun _ h => h⟩⟩
  · have cursor := s.cursors row hr
    exact ⟨cursor.nonneg, cursor.ordered, le_trans cursor.bounded (later _)⟩
  · -- an event up to what is delivered was there before
    have high : e.sequence ≤ feed.db.outbox.last e.billingAccountId := by
      rw [own]
      exact le_trans le (s.cursors row hr).bounded
    have low : 1 ≤ e.sequence := ((sound.numbered e.billingAccountId e.sequence).1 ⟨e, he, rfl, rfl⟩).1
    obtain ⟨old, ho, ha, hs⟩ := (s.outbox.numbered e.billingAccountId e.sequence).2 ⟨low, high⟩
    have same : old = e := Table.eq_of_key (advances.events old ho) he (Prod.ext ha hs)
    subst same
    exact s.responded row hr old ho own le

theorem FeedStep.step {feed : Feed} (s : feed.Sound digests) (step : FeedStep) :
    (step.run digests feed).Sound digests ∧ feed.Advances (step.run digests feed) := by
  cases step with
  | write action => exact s.write action
  | poll process project name request => exact s.poll process project name request
  | ack process project name request => exact s.ack process project name request
  | next process => exact s.next process

theorem FeedStep.runAll_step (steps : List FeedStep) {feed : Feed} (s : feed.Sound digests) :
    (FeedStep.runAll digests steps feed).Sound digests ∧ feed.Advances (FeedStep.runAll digests steps feed) := by
  induction steps generalizing feed with
  | nil => exact ⟨s, .refl feed⟩
  | cons step steps ih =>
    obtain ⟨sound, advances⟩ := FeedStep.step s step
    obtain ⟨sound', advances'⟩ := ih sound
    exact ⟨sound', advances.trans advances'⟩

theorem Feed.Sound.empty : Feed.empty.Sound digests :=
  ⟨Outbox.Sound.empty, fun row h => absurd h (Table.not_mem_empty row),
    fun row h => absurd h (Table.not_mem_empty row), fun _ _ h => by cases h⟩

/-- In every run a cursor is in order and only grows, every event it has delivered was in a response to its
consumer, and whatever acknowledges more than is delivered is refused. -/
theorem FeedStep.runAll_cursors (digests : Digests) (before after : List FeedStep) :
    let feed := FeedStep.runAll digests before Feed.empty
    (∀ row ∈ feed.consumers, row.Sound (feed.db.outbox.last row.billingAccountId)) ∧
    feed.Advances (FeedStep.runAll digests after feed) ∧
    (∀ row ∈ feed.consumers, Responded feed.db.outbox.events feed.done row) ∧
    (∀ process call ack, feed.calls process = some call → call.ack = some ack →
      feed.delivered (key call.row) < ack.sequence →
      feed.Refused (feed.next process)) ∧
    ∀ process project name account request, feed.accountId project = .ok account →
      feed.delivered (account, name) < request.sequence →
      feed.Refused (feed.ack process project name request) := by
  intro feed
  have s : feed.Sound digests := (FeedStep.runAll_step before .empty).1
  exact ⟨s.cursors, (FeedStep.runAll_step after s).2, s.responded,
    fun _ _ _ hc carries beyond => s.next_refused hc carries beyond,
      fun process _ _ _ _ ha beyond => s.ack_refused process ha beyond⟩

end Xscope

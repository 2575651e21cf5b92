/-
Reviews over a run. A review is decided once, by someone other than its submitter; a reservation
is waived only through an approved loss waiver, and whatever ends a reservation first, a waiver or
a settlement, ends it for good.
-/
import Xscope.Billing.Lifecycle

namespace Xscope

/-! ## The invariant -/

/-- `actor` decided the review with `request`. -/
structure BillingReview.Decided (v : BillingReview) (actor : String) (request : DecisionRequest) : Prop where
  reviewedBy : v.reviewedBy = some actor
  other : actor ≠ v.submittedBy
  decision : v.decision = some request
  state : v.state = decidedState (request.action == "approve") v.evidence.isWaiver

/-- A loss waiver of the reservation, approved by someone other than its submitter. -/
structure Waives (v : BillingReview) (r : Reservation) : Prop where
  reservation : v.reservationId = r.id
  project : v.projectId = r.projectId
  waiver : v.evidence.isWaiver = true
  approved : ∃ actor request, v.Decided actor request ∧ request.action = "approve"

/-- The audit rows of a review, the newest first. -/
def Books.auditsOf (b : Books) (review : String) : List ReviewAudit :=
  b.reviewAudits.select fun a => a.reviewId == review

/-- The rows a review has in its state: the submission, and the decision when there is one. -/
def auditSequences : ReviewState → List Nat
  | .submitted => [1]
  | _ => [2, 1]

/-- Every waived reservation has its waiver, and every review the audit of its state. -/
structure Books.Reviewed (b : Books) : Prop where
  waived : ∀ r ∈ b.reservations, r.state = .waived → ∃ v ∈ b.reviews, Waives v r
  decided : ∀ v ∈ b.reviews, v.state ≠ .submitted → ∃ actor request, v.Decided actor request
  audits : ∀ v ∈ b.reviews, (b.auditsOf v.id).map (·.sequence) = auditSequences v.state
  owned : ∀ a ∈ b.reviewAudits, ∃ v ∈ b.reviews, v.id = a.reviewId

/-! ## Moves beside reviews -/

section Moves

variable {b b' : Books}

theorem Move.reviews {k : Kind} (m : Move k b b') (hk : k ≠ .review) :
    b'.reviews = b.reviews ∧ b'.reviewAudits = b.reviewAudits := by
  cases m with
  | registry g => exact ⟨g.reviews, g.reviewAudits⟩
  | review reviews audits => exact absurd rfl hk
  | settle call a r request amount us ha hp hr hs wf hin hout cost funds hi post =>
    obtain ⟨ts, es, rfl⟩ := post.eq; exact ⟨rfl, rfl⟩
  | usage call a e cost us ha hp unreserved priced funds hi post => obtain ⟨ts, es, rfl⟩ := post.eq; exact ⟨rfl, rfl⟩
  | topUp call a o id provider reference currency key description ps ha hp ho hpend hfit hi post =>
    obtain ⟨ts, es, rfl⟩ := post.eq; exact ⟨rfl, rfl⟩
  | refund call a o p row key description rs ha hp ho hpay hprov hrow hst hpos le limit funds hi post =>
    obtain ⟨ts, es, rfl⟩ := post.eq; exact ⟨rfl, rfl⟩
  | prepare call a o p row key description rs ha hp ho hpay hprov hrow hst hpos limit funds hi post =>
    obtain ⟨ts, es, rfl⟩ := post.eq; exact ⟨rfl, rfl⟩
  | complete call a o p row trade ha hp ho hpay hprov hrow hpid hst post =>
    obtain ⟨ts, es, rfl⟩ := post.eq; exact ⟨rfl, rfl⟩
  | _ => exact ⟨rfl, rfl⟩

/-- A replaced reservation that is not waived leaves the waived ones. -/
theorem waived_put {row r : Reservation} (hs : row.state ≠ .waived) (hr : r ∈ b.reservations.put row)
    (hw : r.state = .waived) : r ∈ b.reservations := by
  rcases Table.mem_put.1 hr with ⟨hr, -⟩ | ⟨rfl, -⟩
  · exact hr
  · exact absurd hw hs

/-- Without a waiver no reservation is waived that was not. -/
theorem Move.waived {k : Kind} (m : Move k b b') (hk : k ≠ .waive) :
    ∀ r ∈ b'.reservations, r.state = .waived → r ∈ b.reservations := by
  intro x hx hw
  cases m with
  | registry g => rw [← g.reservations]; exact hx
  | reserve now a request entry key amount rs ha hp wf hm hid hk hkid cost fresh unused funds budget hi =>
    rcases (Table.mem_insert? hi).1 hx with rfl | hx
    · cases hw
    · exact hx
  | dispatch now r hr hs => exact waived_put (by simp [dispatchedReservation]) hx hw
  | release now r reason hr hs => exact waived_put (by simp [releasedReservation]) hx hw
  | report now r request hr hs => exact waived_put (by simp [unresolvedReservation, hs]) hx hw
  | settle call a r request amount us ha hp hr hs wf hin hout cost funds hi post =>
    obtain ⟨ts, es, rfl⟩ := post.eq
    exact waived_put (by simp [settledReservation]) hx hw
  | waive now r hr hs => exact absurd rfl hk
  | usage call a e cost us ha hp unreserved priced funds hi post => obtain ⟨ts, es, rfl⟩ := post.eq; exact hx
  | topUp call a o id provider reference currency key description ps ha hp ho hpend hfit hi post =>
    obtain ⟨ts, es, rfl⟩ := post.eq; exact hx
  | refund call a o p row key description rs ha hp ho hpay hprov hrow hst hpos le limit funds hi post =>
    obtain ⟨ts, es, rfl⟩ := post.eq; exact hx
  | prepare call a o p row key description rs ha hp ho hpay hprov hrow hst hpos limit funds hi post =>
    obtain ⟨ts, es, rfl⟩ := post.eq; exact hx
  | complete call a o p row trade ha hp ho hpay hprov hrow hpid hst post =>
    obtain ⟨ts, es, rfl⟩ := post.eq; exact hx
  | _ => exact hx

theorem Moves.reviews {ks : List Kind} (h : Moves ks b b') (hk : .review ∉ ks) :
    b'.reviews = b.reviews ∧ b'.reviewAudits = b.reviewAudits := by
  refine h.keeps (I := fun x => x.reviews = b.reviews ∧ x.reviewAudits = b.reviewAudits) ?_ ⟨rfl, rfl⟩
  rintro k hm x x' m ⟨hr, ha⟩
  obtain ⟨hr', ha'⟩ := m.reviews fun e => hk (e ▸ hm)
  exact ⟨hr'.trans hr, ha'.trans ha⟩

theorem Moves.waived {ks : List Kind} (h : Moves ks b b') (hk : .waive ∉ ks) :
    ∀ r ∈ b'.reservations, r.state = .waived → r ∈ b.reservations := by
  refine h.keeps (I := fun x => ∀ r ∈ x.reservations, r.state = .waived → r ∈ b.reservations) ?_ fun r hr _ => hr
  intro k hm x x' m ih r hr hw
  exact ih r (m.waived (fun e => hk (e ▸ hm)) r hr hw) hw

theorem Books.Reviewed.frame (h : b.Reviewed) (reviews : b'.reviews = b.reviews)
    (audits : b'.reviewAudits = b.reviewAudits)
    (waived : ∀ r ∈ b'.reservations, r.state = .waived → r ∈ b.reservations) : b'.Reviewed := by
  refine ⟨fun r hr hw => ?_, ?_, ?_, ?_⟩
  · rw [reviews]; exact h.waived r (waived r hr hw) hw
  · rw [reviews]; exact h.decided
  · unfold Books.auditsOf
    rw [reviews, audits]; exact h.audits
  · rw [reviews, audits]; exact h.owned

end Moves

/-! ## Submissions -/

section Submit

variable {digests : Digests} {db : Db} {call : Call} {project reservationId actor subject : String}
    {submission : Submission}

/-- The audit row a review gets. -/
def reviewAudit (row : BillingReview) (sequence : Nat) (actor subject : String)
    (details : AuditDetails) : ReviewAudit :=
  { reviewId := row.id, sequence := sequence, kind := row.state, actorId := actor, subject := subject
    evidenceSha256 := row.evidenceSha256, details := details }

/-- A submission is a replay, or it inserts the review and its first audit row. -/
theorem submitReview_books {r : BillingReview × Db}
    (h : submitReview digests call project reservationId actor subject submission db = .ok r) :
    (r.2.books = db.books ∧ ∃ v ∈ db.books.reviews, v.id = submission.id) ∨ ∃ reviews audits,
      db.books.reviews.insert? (newReview digests project reservationId actor submission) = some reviews ∧
      db.books.reviewAudits.insert? (reviewAudit (newReview digests project reservationId actor submission)
        1 actor subject
        (.submitted reservationId)) = some audits ∧
      r.2.books = { db.books with reviews := reviews, reviewAudits := audits } := by
  unfold submitReview at h
  simp only [lockAccount_bind, findById_bind] at h
  obtain ⟨a, ha, h⟩ := h
  cases hg : (Slot.reviews.get db).get? submission.id with
  | some existing =>
    rw [hg] at h
    simp only [Tx.reject_bind] at h
    cases Tx.pure_ok.1 h.2
    exact .inl ⟨rfl, existing, Table.get?_mem hg, Table.get?_key hg⟩
  | none =>
    rw [hg] at h
    simp only [findReservation_bind, Tx.reject_bind, insertRow_bind, appendAudit] at h
    obtain ⟨row, hr, -, hp, -, -, reviews, hreviews, -, audits, haudits, h⟩ := h
    obtain ⟨_, s, h1, h2⟩ := Tx.bind_ok.1 h
    obtain ⟨o, rfl, -⟩ := appendEvent_ok h1
    cases Tx.pure_ok.1 h2
    exact .inr ⟨reviews, audits, hreviews, haudits, rfl⟩

theorem Books.Reviewed.submit {b : Books} (h : b.Reviewed) {row : BillingReview} {reviews : Table BillingReview}
    {audits : Table ReviewAudit} {details : AuditDetails} (hs : row.state = .submitted)
    (hi : b.reviews.insert? row = some reviews)
    (ha : b.reviewAudits.insert? (reviewAudit row 1 actor subject details) = some audits) :
    ({ b with reviews := reviews, reviewAudits := audits } : Books).Reviewed := by
  have fresh : ∀ v ∈ b.reviews, v.id ≠ row.id := Table.get?_none_iff.1 (Table.insert?_some hi).1
  have rows : ∀ id, audits.select (fun a => a.reviewId == id) =
      if row.id = id then reviewAudit row 1 actor subject details :: b.auditsOf id else b.auditsOf id := by
    intro id
    rw [Table.select_insert? ha]
    simp [reviewAudit, Books.auditsOf]
  refine ⟨fun r hr hw => ?_, fun v hv hst => ?_, fun v hv => ?_, fun a hm => ?_⟩
  · obtain ⟨v, hv, w⟩ := h.waived r hr hw
    exact ⟨v, (Table.mem_insert? hi).2 (.inr hv), w⟩
  · rcases (Table.mem_insert? hi).1 hv with rfl | hv
    · exact absurd hs hst
    · exact h.decided v hv hst
  · show (audits.select fun a => a.reviewId == v.id).map _ = _
    rw [rows]
    rcases (Table.mem_insert? hi).1 hv with rfl | hv
    · -- a new review has no audit rows yet
      have none : b.auditsOf v.id = [] := Table.select_nil_iff.2 fun a hm => by
        obtain ⟨x, hx, hid⟩ := h.owned a hm
        rw [beq_eq_false_iff_ne, ← hid]
        exact fresh x hx
      rw [if_pos rfl, none, hs]
      rfl
    · rw [if_neg fun e => fresh v hv e.symm]
      exact h.audits v hv
  · rcases (Table.mem_insert? ha).1 hm with rfl | hm
    · exact ⟨row, (Table.mem_insert? hi).2 (.inl rfl), rfl⟩
    · obtain ⟨v, hv, hid⟩ := h.owned a hm
      exact ⟨v, (Table.mem_insert? hi).2 (.inr hv), hid⟩

end Submit

/-! ## Decisions -/

section Decide

variable {db : Db} {call : Call} {project id actor subject : String} {request : DecisionRequest}

/-- What an approval does to the reservation of the review: a waiver of it, or a settlement. -/
inductive Approves (now : Int) (v : BillingReview) (b b' : Books) : Prop
  | waive (r : Reservation) (waiver : v.evidence.isWaiver = true) (hr : r ∈ b.reservations)
      (hid : r.id = v.reservationId)
      (hp : r.projectId = v.projectId)
      (eq : b' = { b with reservations := b.reservations.put (waivedReservation now r) })
  | settle (evidence : v.evidence.isWaiver = false) (moves : Moves [.settle now] b b')

/-- A decision is a replay; a rejection, which leaves everything but the review; or an approval. -/
theorem decideBillingReview_books {r : BillingReview × Db} (g : Good db.books db.projections)
    (h : decideBillingReview call project id actor subject request db = .ok r) :
    (r.2.books = db.books ∧ r.2.projections = db.projections ∧
      ∃ v ∈ db.books.reviews, v.id = id ∧ v.state ≠ .submitted) ∨
    ∃ row ∈ db.books.reviews, row.id = id ∧ row.state = .submitted ∧ row.submittedBy ≠ actor ∧
      ∃ b₁ audits, (request.action ≠ "approve" → b₁ = db.books ∧ r.2.projections = db.projections) ∧
        (request.action = "approve" → Approves call.now row db.books b₁) ∧
        b₁.reviewAudits.insert? (reviewAudit (decidedReview row (request.action == "approve") actor request)
          2 actor subject
          (.decided request)) = some audits ∧
        r.2.books = { b₁ with
          reviews := b₁.reviews.put (decidedReview row (request.action == "approve") actor request)
          reviewAudits := audits } := by
  unfold decideBillingReview at h
  simp only [Tx.reject_bind, lockAccount_bind, findById_bind, Tx.expect_bind] at h
  obtain ⟨-, a, ha, row, hrow, other, -, h⟩ := h
  obtain ⟨ha, hap⟩ := account_of_find ha
  obtain ⟨hget, hproj⟩ := Option.filter_eq_some_iff.1 hrow
  have hproj : row.projectId = project := by simpa using hproj
  split at h
  · simp only [Tx.reject_bind] at h
    cases Tx.pure_ok.1 h.2
    exact .inl ⟨rfl, rfl, row, Table.get?_mem hget, Table.get?_key hget, ‹_›⟩
  · rename_i hst
    obtain ⟨_, s, h1, h2⟩ := Tx.bind_ok.1 h
    simp only [updateRow_bind, insertRow_bind, appendAudit] at h2
    obtain ⟨-, audits, haudits, h2⟩ := h2
    obtain ⟨_, s', h3, h4⟩ := Tx.bind_ok.1 h2
    obtain ⟨o, rfl, -⟩ := appendEvent_ok h3
    cases Tx.pure_ok.1 h4
    refine .inr ⟨row, Table.get?_mem hget, Table.get?_key hget, not_not.1 hst, other, s.books, audits, fun hne => ?_,
      fun he => ?_, haudits, rfl⟩
    -- a rejection moves nothing before the review is written
    · unfold applyDecision at h1
      rw [if_neg (by simpa using hne)] at h1
      cases Tx.pure_ok.1 h1
      exact ⟨rfl, rfl⟩
    · unfold applyDecision at h1
      rw [if_pos (by simpa using he)] at h1
      unfold approveReview at h1
      simp only [findReservation_bind] at h1
      obtain ⟨held, hr, hid, hpr, h1⟩ := h1
      cases hev : row.evidence with
      | waiver w =>
        rw [hev] at h1
        -- an approved waiver ends the reservation, approved evidence settles it
        unfold waiveReservation at h1
        simp only [Tx.reject_bind] at h1
        obtain ⟨-, h1⟩ := h1
        obtain ⟨_, t, h5, h6⟩ := Tx.bind_ok.1 h1
        obtain ⟨p, hp', -⟩ := changeHold_spec h5 g.shows (fun _ => ⟨rfl, rfl⟩) (fun _ => rfl)
        simp only at hp'
        subst hp'
        rw [updateRow_bind] at h6
        obtain ⟨o, ho, -⟩ := appendEvent_ok h6
        simp only at ho
        exact .waive held (by rw [hev]; rfl) hr hid (hpr.trans hproj.symm) (congrArg Db.books ho)
      | evidence e =>
        rw [hev] at h1
        obtain ⟨settled, t, h5, h6⟩ := Tx.bind_ok.1 h1
        cases Tx.pure_ok.1 h6
        exact .settle (by rw [hev]; rfl) (settleLocked_step g ha (hap.trans hpr.symm) hr h5).1.moves

theorem Approves.reviews {now : Int} {v : BillingReview} {b b' : Books} (h : Approves now v b b') :
    b'.reviews = b.reviews ∧ b'.reviewAudits = b.reviewAudits := by
  cases h with
  | waive r waiver hr hid hp eq => subst eq; exact ⟨rfl, rfl⟩
  | settle evidence moves => exact moves.reviews (by simp)

theorem decidedReview_decided {row : BillingReview} (other : row.submittedBy ≠ actor) :
    (decidedReview row (request.action == "approve") actor request).Decided actor request :=
  ⟨rfl, other.symm, rfl, rfl⟩

/-- A decision with the effect it has on the reservation. -/
theorem Books.Reviewed.decide {b b₁ : Books} (h : b.Reviewed) {now : Int} {row : BillingReview}
    {audits : Table ReviewAudit} (hrow : row ∈ b.reviews) (hs : row.state = .submitted)
    (other : row.submittedBy ≠ actor) (rejected : request.action ≠ "approve" → b₁ = b)
    (approved : request.action = "approve" → Approves now row b b₁)
    (ha : b₁.reviewAudits.insert? (reviewAudit (decidedReview row (request.action == "approve") actor request)
    2 actor subject
      (.decided request)) = some audits) :
    ({ b₁ with
      reviews := b₁.reviews.put (decidedReview row (request.action == "approve") actor request)
      reviewAudits := audits } : Books).Reviewed := by
  have same : b₁.reviews = b.reviews ∧ b₁.reviewAudits = b.reviewAudits := by
    by_cases he : request.action = "approve"
    · exact (approved he).reviews
    · rw [rejected he]; exact ⟨rfl, rfl⟩
  obtain ⟨hreviews, haudits⟩ := same
  rw [haudits] at ha
  have decided : (decidedReview row (request.action == "approve") actor request).Decided actor request :=
    decidedReview_decided other
  generalize hd : decidedReview row (request.action == "approve") actor request = d at ha decided ⊢
  have hid : d.id = row.id := by rw [← hd]; rfl
  have hdst : d.state ≠ .submitted := by
    rw [decided.state]
    unfold decidedState
    split
    · simp
    · split <;> simp
  have hput : d ∈ b₁.reviews.put d := Table.mem_put.2 (.inr ⟨rfl, row, by rw [hreviews]; exact hrow, hid.symm⟩)
  have rows : ∀ x, audits.select (fun a => a.reviewId == x) =
      if d.id = x then reviewAudit d 2 actor subject (.decided request) :: b.auditsOf x else b.auditsOf x := by
    intro x
    rw [Table.select_insert? ha]
    simp [reviewAudit, Books.auditsOf]
  -- a waiver that was approved was not this review, which was only submitted
  have kept : ∀ r v, v ∈ b.reviews → Waives v r → v ∈ b₁.reviews.put d := by
    intro r v hv w
    refine Table.mem_put.2 (.inl ⟨by rw [hreviews]; exact hv, fun e => ?_⟩)
    have : v = row := Table.eq_of_key hv hrow (e.trans hid)
    subst this
    obtain ⟨x, q, dec, happ⟩ := w.approved
    have := dec.state
    rw [hs, w.waiver, happ] at this
    cases this
  refine ⟨fun r hr hw => ?_, fun v hv hst => ?_, fun v hv => ?_, fun a hm => ?_⟩
  · have old : r ∈ b.reservations → ∃ v ∈ b₁.reviews.put d, Waives v r := by
      intro hr
      obtain ⟨v, hv, w⟩ := h.waived r hr hw
      exact ⟨v, kept r v hv w, w⟩
    by_cases he : request.action = "approve"
    · cases approved he with
      | waive held waiver hheld hheldId hheldP eq =>
        subst eq
        rcases Table.mem_put.1 hr with ⟨hr, -⟩ | ⟨rfl, -⟩
        · exact old hr
        · refine ⟨d, hput, ?_, ?_, ?_, actor, request, decided, he⟩
          · rw [← hd]; exact hheldId.symm
          · rw [← hd]; exact hheldP.symm
          · rw [← hd]; exact waiver
      | settle evidence moves => exact old (moves.waived (by simp) r hr hw)
    · rw [rejected he] at hr
      exact old hr
  · rcases Table.mem_put.1 hv with ⟨hv, -⟩ | ⟨rfl, -⟩
    · rw [hreviews] at hv
      exact h.decided v hv hst
    · exact ⟨actor, request, decided⟩
  · show (audits.select fun a => a.reviewId == v.id).map _ = _
    rw [rows]
    rcases Table.mem_put.1 hv with ⟨hv, hne⟩ | ⟨rfl, -⟩
    · rw [hreviews] at hv
      rw [if_neg fun e => hne e.symm]
      exact h.audits v hv
    · have first := h.audits row hrow
      rw [hs] at first
      rw [if_pos rfl, hid, List.map_cons, first]
      cases hst : v.state with
      | submitted => exact absurd hst hdst
      | _ => rfl
  · rcases (Table.mem_insert? ha).1 hm with rfl | hm
    · exact ⟨d, hput, rfl⟩
    · obtain ⟨v, hv, hvid⟩ := h.owned a hm
      by_cases hv' : v.id = row.id
      · exact ⟨d, hput, hid.trans (hv'.symm.trans hvid)⟩
      · exact ⟨v, Table.mem_put.2 (.inl ⟨by rw [hreviews]; exact hv, fun e => hv' (e.trans hid)⟩), hvid⟩

end Decide

/-! ## Operations -/

/-- `v'` is `v` at a later moment: unchanged, or decided once. -/
inductive BillingReview.Continues : BillingReview → BillingReview → Prop
  | same (v : BillingReview) : Continues v v
  | decide (v : BillingReview) (approve : Bool) (actor : String) (request : DecisionRequest)
      (h : v.state = .submitted) :
      Continues v (decidedReview v approve actor request)

theorem decidedState_ne (approve waiver : Bool) : decidedState approve waiver ≠ .submitted := by
  cases approve <;> cases waiver <;> simp [decidedState]

theorem BillingReview.Continues.trans {a b c : BillingReview} (h1 : BillingReview.Continues a b)
    (h2 : BillingReview.Continues b c) : BillingReview.Continues a c := by
  cases h1 with
  | same => exact h2
  | decide approve actor request h =>
    cases h2 with
    | same => exact .decide a approve actor request h
    | decide approve' actor' request' h' => exact absurd h' (decidedState_ne _ _)

/-- Every review of `b` is still there in `b'`. -/
def ReviewsKept (b b' : Books) : Prop := ∀ v ∈ b.reviews, ∃ v' ∈ b'.reviews, BillingReview.Continues v v'

theorem ReviewsKept.of_eq {b b' : Books} (h : b'.reviews = b.reviews) : ReviewsKept b b' :=
  fun v hv => ⟨v, by rw [h]; exact hv, .same v⟩

theorem ReviewsKept.trans {a b c : Books} (h1 : ReviewsKept a b) (h2 : ReviewsKept b c) : ReviewsKept a c := by
  intro v hv
  obtain ⟨v', hv', k⟩ := h1 v hv
  obtain ⟨v'', hv'', k'⟩ := h2 v' hv'
  exact ⟨v'', hv'', k.trans k'⟩

theorem submitReview_reviewed {digests : Digests} {db : Db} {call : Call} {project reservationId actor subject : String}
    {submission : Submission} (h : db.books.Reviewed) {r : BillingReview × Db}
    (hr : submitReview digests call project reservationId actor subject submission db = .ok r) :
    r.2.books.Reviewed ∧ ReviewsKept db.books r.2.books := by
  rcases submitReview_books hr with ⟨eq, -⟩ | ⟨reviews, audits, hi, ha, eq⟩
  · rw [eq]; exact ⟨h, .of_eq rfl⟩
  · rw [eq]
    exact ⟨h.submit rfl hi ha, fun v hv => ⟨v, (Table.mem_insert? hi).2 (.inr hv), .same v⟩⟩

theorem decideBillingReview_reviewed {db : Db} {call : Call} {project id actor subject : String}
    {request : DecisionRequest} (g : Good db.books db.projections) (h : db.books.Reviewed) {r : BillingReview × Db}
    (hr : decideBillingReview call project id actor subject request db = .ok r) :
    r.2.books.Reviewed ∧ ReviewsKept db.books r.2.books := by
  rcases decideBillingReview_books g hr with ⟨eq, -⟩ | ⟨row, hrow, -, hs, other, b₁, audits, rejected, approved, ha, eq⟩
  · rw [eq]; exact ⟨h, .of_eq rfl⟩
  · rw [eq]
    refine ⟨h.decide hrow hs other (fun hne => (rejected hne).1) approved ha, fun v hv => ?_⟩
    have same : b₁.reviews = db.books.reviews := by
      by_cases he : request.action = "approve"
      · exact (approved he).reviews.1
      · rw [(rejected he).1]
    by_cases hid : v.id = row.id
    · have := Table.eq_of_key hv hrow hid
      subst this
      exact ⟨_, Table.mem_put.2 (.inr ⟨rfl, v, by rw [same]; exact hv, rfl⟩), .decide v _ actor request hs⟩
    · exact ⟨v, Table.mem_put.2 (.inl ⟨by rw [same]; exact hv, hid⟩), .same v⟩

/-- A committed transaction keeps what its success and its failure keep. -/
theorem Tx.commit_run {α : Type} {x : DbTx α} {db : Db} {P : Db → Prop} (h0 : P db) (h : ∀ r, x db = .ok r → P r.2) :
    P (Tx.commit x db).2 := by
  rcases Tx.commit_cases x db with ⟨v, s, hx, hc⟩ | ⟨err, -, hc⟩
  · rw [hc]; exact h _ hx
  · rw [hc]; exact h0

theorem Op.reviewed (digests : Digests) (op : Op) {db : Db} (g : Good db.books db.projections) (h : db.books.Reviewed) :
    (op.run digests db).books.Reviewed ∧ ReviewsKept db.books (op.run digests db).books := by
  have moves := (op.step digests g).moves
  cases op with
  | submitEvidence call project reservationId actor subject request =>
    refine Tx.commit_run (P := fun s => s.books.Reviewed ∧ ReviewsKept db.books s.books) ⟨h, .of_eq rfl⟩ fun r hr => ?_
    unfold submitBillingEvidence at hr
    exact submitReview_reviewed h (checkRequest_bind.1 hr).2
  | submitWaiver call project reservationId actor subject request =>
    refine Tx.commit_run (P := fun s => s.books.Reviewed ∧ ReviewsKept db.books s.books) ⟨h, .of_eq rfl⟩ fun r hr => ?_
    unfold submitBillingWaiver at hr
    exact submitReview_reviewed h (checkRequest_bind.1 hr).2
  | decideReview call project id actor subject request =>
    refine Tx.commit_run (P := fun s => s.books.Reviewed ∧ ReviewsKept db.books s.books) ⟨h, .of_eq rfl⟩ fun r hr => ?_
    exact decideBillingReview_reviewed g h hr
  | _ =>
    obtain ⟨reviews, audits⟩ := moves.reviews (by simp [Op.kinds])
    exact ⟨h.frame reviews audits (moves.waived (by simp [Op.kinds])), .of_eq reviews⟩

/-- A rejection changes the review and its audit, and nothing else. -/
theorem Op.rejected (digests : Digests) {call : Call} {project id actor subject : String} {request : DecisionRequest}
    {db : Db} (g : Good db.books db.projections) (hne : request.action ≠ "approve") :
    let db' := (Op.decideReview call project id actor subject request).run digests db
    db'.books = { db.books with reviews := db'.books.reviews, reviewAudits := db'.books.reviewAudits } ∧
      db'.projections = db.projections := by
  intro db'
  have run : db' = (Tx.commit (decideBillingReview call project id actor subject request) db).2 := rfl
  rcases Tx.commit_cases (decideBillingReview call project id actor subject request) db with
    ⟨v, s, hx, hc⟩ | ⟨err, -, hc⟩
  · rw [run, hc]
    rcases decideBillingReview_books g hx with ⟨eq, hp, -⟩ | ⟨row, -, -, -, -, b₁, audits, rejected, -, -, eq⟩
    · exact ⟨by rw [eq], hp⟩
    · obtain ⟨rfl, hp⟩ := rejected hne
      exact ⟨by rw [eq], hp⟩
  · rw [run, hc]
    exact ⟨rfl, rfl⟩

/-! ## Runs -/

theorem Books.Reviewed.empty : Db.empty.books.Reviewed :=
  ⟨fun r h => absurd h (Table.not_mem_empty r), fun v h => absurd h (Table.not_mem_empty v),
    fun v h => absurd h (Table.not_mem_empty v), fun a h => absurd h (Table.not_mem_empty a)⟩

theorem Op.runAll_reviewed (digests : Digests) : ∀ (ops : List Op) {db : Db}, Good db.books db.projections →
    db.books.Reviewed → (Op.runAll digests ops db).books.Reviewed ∧
      ReviewsKept db.books (Op.runAll digests ops db).books
  | [], _, _, h => ⟨h, .of_eq rfl⟩
  | op :: ops, db, g, h => by
    obtain ⟨first, kept⟩ := op.reviewed digests g h
    obtain ⟨rest, kept'⟩ := Op.runAll_reviewed digests ops ((op.step digests g).good g) first
    exact ⟨rest, kept.trans kept'⟩

/-- A held reservation was settled or waived between `b` and `b'`. -/
def Ends (b b' : Books) (id : String) : Prop :=
  ∃ r ∈ b.reservations, ∃ r' ∈ b'.reservations, r.id = id ∧ r'.id = id ∧ r.state.held = true ∧
    (r'.state = .settled ∨ r'.state = .waived)

/-- A reservation that ended is not held later. -/
theorem Ends.final {a b c d : Books} {id : String} (h : Ends a b id) (carried : Carried b c) : ¬Ends c d id := by
  rintro ⟨x, hx, -, -, hxid, -, held, -⟩
  obtain ⟨-, -, r, hr, -, hrid, -, hst⟩ := h
  obtain ⟨r', hr', cont⟩ := carried r hr
  have ended : r.state.held = false := by rcases hst with h | h <;> rw [h] <;> rfl
  have e := cont.ended ended
  have : x = r := Table.eq_of_key hx (e ▸ hr') (hxid.trans hrid.symm)
  rw [this, ended] at held
  cases held

/-- In every run: a waived reservation has a loss waiver that someone other than its submitter
approved; a review has one audit row, and a second when it is decided, which happens once; a
rejection changes no reservation, hold, ledger entry or usage event; and at most one operation
settles or waives a reservation, which is charged once when it is settled and not otherwise. -/
theorem Op.runAll_reviews (digests : Digests) (before ops : List Op) :
    let b₀ := (Op.runAll digests before Db.empty).books
    let db := Op.runAll digests (before ++ ops) Db.empty
    let at_ := fun n => (Op.runAll digests (ops.take n) (Op.runAll digests before Db.empty)).books
    (∀ r ∈ db.books.reservations, r.state = .waived → ∃ v ∈ db.books.reviews, Waives v r) ∧
    (∀ v ∈ db.books.reviews, (db.books.auditsOf v.id).map (·.sequence) = auditSequences v.state) ∧
    (∀ v ∈ b₀.reviews, ∃ v' ∈ db.books.reviews, BillingReview.Continues v v') ∧
    (∀ (call : Call) (project id actor subject : String) (request : DecisionRequest), request.action ≠ "approve" →
      let db' := (Op.decideReview call project id actor subject request).run digests db
      db'.books = { db.books with reviews := db'.books.reviews, reviewAudits := db'.books.reviewAudits } ∧
        db'.projections = db.projections) ∧
    (∀ id i j, i < j → Ends (at_ i) (at_ (i + 1)) id → ¬Ends (at_ j) (at_ (j + 1)) id) ∧
    ((∀ op ∈ before ++ ops, op.recordsUsage = false) → ∀ r ∈ db.books.reservations,
      (r.state = .settled → ∃ request amount u, Settlement db.books r request amount u) ∧
      (r.state ≠ .settled → Uncharged db.books r)) := by
  intro b₀ db at_
  have g := Op.runAll_good digests (before ++ ops) Good.empty
  have reviewed := (Op.runAll_reviewed digests (before ++ ops) Good.empty .empty).1
  refine ⟨reviewed.waived, reviewed.audits, ?_, fun call project id actor subject request hne =>
    Op.rejected digests g hne, fun id i j hij he => ?_, fun protocol r hr => ?_⟩
  · have hdb : db = Op.runAll digests ops (Op.runAll digests before Db.empty) := Op.runAll_append digests before ops _
    rw [hdb]
    exact (Op.runAll_reviewed digests ops (Op.runAll_good digests before Good.empty)
      (Op.runAll_reviewed digests before Good.empty .empty).1).2
  · refine he.final ?_
    -- what follows the step that ended the reservation carries it on
    have split : ops.take j = ops.take (i + 1) ++ (ops.take j).drop (i + 1) := by
      have := List.take_append_drop (i + 1) (ops.take j)
      rw [List.take_take, min_eq_left (by omega)] at this
      exact this.symm
    show Carried (at_ (i + 1)) (Op.runAll digests (ops.take j) (Op.runAll digests before Db.empty)).books
    rw [split, Op.runAll_append]
    exact (Op.runAll_moves digests _ (Op.runAll_good digests _
      (Op.runAll_good digests before Good.empty))).moves.carried
  · obtain ⟨-, lifecycle⟩ := Op.runAll_lifecycle digests before ops protocol
    obtain ⟨settled, unsettled, -⟩ := lifecycle r hr
    exact ⟨settled, unsettled⟩

end Xscope

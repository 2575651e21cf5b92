/-
Reviews of pending reservations: usage evidence that settles one, or a loss waiver that frees its
hold, each submitted by one person and decided by another.
-/
import Xscope.Billing.Reservation

namespace Xscope

variable (digests : Digests)

def appendAudit (row : BillingReview) (sequence : Nat) (actor subject : String) (details : AuditDetails) : DbTx Unit :=
  insertRow Slot.reviewAudits
    { reviewId := row.id, sequence := sequence, kind := row.state, actorId := actor, subject := subject
      evidenceSha256 := row.evidenceSha256, details := details } .database

/-! ## Submission -/

/-- The review as it is submitted. -/
def newReview (project reservationId actor : String) (submission : Submission) : BillingReview :=
  { id := submission.id, reservationId := reservationId, projectId := project, submittedBy := actor
    evidence := submission, evidenceSha256 := digests.submission project reservationId submission
    state := .submitted, reviewedBy := none, decision := none }

def submitReview (call : Call) (project reservationId actor subject : String) (submission : Submission) :
    DbTx BillingReview := do
  let account ← lockAccount project
  match ← findById Slot.reviews submission.id with
  | some existing => do
    Tx.reject (existing.projectId ≠ project ∨ existing.reservationId ≠ reservationId ∨ existing.submittedBy ≠ actor ∨
        existing.evidence ≠ submission)
      (.conflict "evidence ID is bound to a different submission")
    pure existing
  | none => do
    let held ← findReservation project reservationId
    Tx.reject (held.state ≠ .dispatched ∧ ¬(submission.isWaiver = true ∧ held.state = .reserved))
      (.conflict "review requires a pending reservation (usage evidence requires dispatched)")
    let row := newReview digests project reservationId actor submission
    insertRow Slot.reviews row conflictOrDatabase
    appendAudit row 1 actor subject (.submitted reservationId)
    appendEvent call account.id "review.submitted" row.id (.review reservationId actor row.evidenceSha256)
    pure row

def submitBillingEvidence (call : Call) (project reservationId actor subject : String) (request : EvidenceRequest) :
    DbTx BillingReview := do
  checkRequest (validateEvidence request)
  submitReview digests call project reservationId actor subject (.evidence request)

def submitBillingWaiver (call : Call) (project reservationId actor subject : String) (request : WaiverRequest) :
    DbTx BillingReview := do
  checkRequest (validateWaiver request)
  submitReview digests call project reservationId actor subject (.waiver request)

/-! ## Decision -/

/-- Frees the hold of a pending reservation. The unknown cost stays unknown: a waiver is neither
a settlement of zero tokens nor a credit. -/
def waiveReservation (call : Call) (account : BillingAccount) (held : Reservation) (review : BillingReview)
    (actor : String) : DbTx Unit := do
  Tx.reject (held.state ≠ .reserved ∧ held.state ≠ .dispatched) (.conflict "only pending reservations can be waived")
  changeHold account.id held.apiKeyId (-held.reservedMicrounits)
  updateRow Slot.reservations (waivedReservation call.now held)
  appendEvent call account.id "reservation.waived" held.id (.waived review.id actor review.evidenceSha256)

/-- The effect of an approval on the reservation. -/
def approveReview (call : Call) (account : BillingAccount) (project : String) (review : BillingReview)
    (actor : String) : DbTx Unit := do
  let held ← findReservation project review.reservationId
  match review.evidence with
  | .waiver _ => waiveReservation call account held review actor
  | .evidence evidence => do
    let _ ← settleLocked call account held evidence.usage
    pure ()

/-- A rejection changes no reservation. -/
def applyDecision (call : Call) (account : BillingAccount) (project : String) (review : BillingReview) (actor : String)
    (approve : Bool) : DbTx Unit :=
  if approve = true then approveReview call account project review actor else pure ()

def decidedState (approve waiver : Bool) : ReviewState :=
  if !approve then .rejected else if waiver then .waived else .settled

def decidedReview (row : BillingReview) (approve : Bool) (actor : String) (request : DecisionRequest) : BillingReview :=
  { row with
    state := decidedState approve row.evidence.isWaiver, reviewedBy := some actor, decision := some request }

def decidedKind (approve waiver : Bool) : String :=
  if !approve then "review.rejected" else if waiver then "review.waived" else "review.settled"

def decideBillingReview (call : Call) (project id actor subject : String) (request : DecisionRequest) :
    DbTx BillingReview := do
  Tx.reject (request.wellFormed = false) (.invalid "decision requires action, exact evidence SHA-256 and reason")
  let account ← lockAccount project
  let row ← findById Slot.reviews id
  let row ← Tx.expect (row.filter fun r => r.projectId == project) .notFound
  Tx.reject (row.submittedBy = actor) .forbidden
  Tx.reject (row.evidenceSha256 ≠ request.evidenceSha256) (.conflict "reviewed evidence SHA-256 changed")
  let approve := request.action == "approve"
  if row.state ≠ .submitted then do
    Tx.reject (row.reviewedBy ≠ some actor ∨ row.decision ≠ some request)
      (.conflict "review already decided with another payload/actor")
    pure row
  else do
    applyDecision call account project row actor approve
    let decided := decidedReview row approve actor request
    updateRow Slot.reviews decided
    appendAudit decided 2 actor subject (.decided request)
    appendEvent call account.id (decidedKind approve row.evidence.isWaiver) id
      (.review row.reservationId actor row.evidenceSha256)
    pure decided

end Xscope

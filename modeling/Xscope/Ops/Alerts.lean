/-
The alerts of the console. A batch of notifications is taken as a whole or not at all; a
notification adds its alert or resolves it, and nothing but an operator acknowledges one.
-/
import Xscope.Base.Table
import Xscope.Base.Tx
import Xscope.Domain.Requests

namespace Xscope.Ops

/-! ## Notifications -/

structure Alert where
  status : String
  labels : List (String × String)
  annotations : List (String × String)
  /-- Instants are nanoseconds. -/
  startsAt : Int
  endsAt : Int
  fingerprint : String
  deriving DecidableEq

structure Webhook where
  alerts : List Alert
  truncatedAlerts : Nat
  deriving DecidableEq

structure Acknowledge where
  reason : String
  deriving DecidableEq

def fiveMinutes : Int := 300000000000

namespace Alert

/-- What `Alert::validate` refuses. -/
def malformed (clock : Int) (a : Alert) : Bool :=
  !(["firing", "resolved"].contains a.status) || decide (a.fingerprint.utf8ByteSize ≠ 16) ||
    !a.fingerprint.toList.all isHexDigit ||
    !((a.labels.lookup "alertname").any fun v => "XScope".toList.isPrefixOf v.toList &&
      decide (v.utf8ByteSize ≤ 128)) ||
    decide (32 < a.labels.length) || decide (16 < a.annotations.length) ||
    (a.labels.any fun l => decide (128 < l.1.utf8ByteSize) || decide (2048 < l.2.utf8ByteSize)) ||
    (a.annotations.any fun l => decide (128 < l.1.utf8ByteSize) || decide (4096 < l.2.utf8ByteSize)) ||
    decide (clock + fiveMinutes < a.startsAt) || (a.status = "resolved" && decide (a.endsAt < a.startsAt))

/-- What makes the identity of an alert: its fingerprint, in lower case, and its start, in milliseconds. -/
def identity (a : Alert) : String × Int := (a.fingerprint.toLower, a.startsAt / 1000000)

/-- The text of the identity. -/
def digestText (a : Alert) : String := a.identity.1 ++ ":" ++ toString a.identity.2

variable (sha256 : String → String)

def id (a : Alert) : String := sha256 a.digestText

end Alert

/-! ## The store -/

structure AlertRow where
  id : String
  name : String
  severity : String
  summary : String
  state : String
  startsAt : Int
  endsAt : Option Int
  receivedAt : Int
  acknowledgedBy : Option String
  acknowledgedAt : Option Int
  deriving DecidableEq

instance : Keyed AlertRow String := ⟨AlertRow.id⟩

structure AlertAudit where
  actorId : String
  action : String
  resourceId : String
  reason : String
  deriving DecidableEq

structure AlertStore where
  alerts : Table AlertRow
  audits : List AlertAudit

def AlertStore.empty : AlertStore := ⟨.empty, []⟩

abbrev AlertTx := Tx AlertStore ServiceError

/-- The store keeps microseconds. -/
def micros (instant : Int) : Int := instant / 1000

/-- The row of a notification that is the first for its alert. -/
def Alert.row (a : Alert) (time : Int) (id : String) : AlertRow :=
  { id := id, name := (a.labels.lookup "alertname").getD ""
    severity := ((a.labels.lookup "severity").filter fun v => ["critical", "warning", "info"].contains v).getD "warning"
    summary := (a.annotations.lookup "summary").getD "", state := a.status, startsAt := micros a.startsAt
    endsAt := if a.status = "resolved" then some (micros a.endsAt) else none
    receivedAt := time, acknowledgedBy := none, acknowledgedAt := none }

/-- The row of an alert when it is resolved. -/
def AlertRow.resolve (row : AlertRow) (time endsAt : Int) : AlertRow :=
  { row with state := "resolved", endsAt := some (micros endsAt), receivedAt := time }

variable (sha256 : String → String)

/-- The notifications of a batch by alert, in the order of the ids; a resolution takes the place of what came
before it. -/
def collect (a : Alert) : List (String × Alert) → List (String × Alert)
  | [] => [(a.id sha256, a)]
  | (id, prior) :: rest =>
    if a.id sha256 = id then (id, if a.status = "resolved" then a else prior) :: rest
    else if a.id sha256 < id then (a.id sha256, a) :: (id, prior) :: rest
    else (id, prior) :: collect a rest

/-- Late firing and duplicate delivery cannot undo a resolution or an acknowledgement. -/
def putAlert (time : Int) (entry : String × Alert) : AlertTx Unit := do
  Tx.write fun s => { s with alerts := (s.alerts.insert? (entry.2.row time entry.1)).getD s.alerts }
  let found ← Tx.read fun s => s.alerts.get? entry.1
  let old ← Tx.expect found .notFound
  if entry.2.status = "resolved" ∧ old.state ≠ "resolved" then
    Tx.write fun s => { s with alerts := s.alerts.put (old.resolve time entry.2.endsAt) }
  else pure ()

def putAlerts (time : Int) : List (String × Alert) → AlertTx Unit
  | [] => pure ()
  | entry :: rest => do
    putAlert time entry
    putAlerts time rest

/-- The clock of the service checks a batch, that of the database dates it. -/
def receiveAlerts (clock time : Int) (request : Webhook) : AlertTx Unit := do
  Tx.reject (100 < request.alerts.length ∨ request.truncatedAlerts ≠ 0)
    (.invalid "alert batch must contain at most 100 complete alerts")
  Tx.reject (request.alerts.any fun a => a.malformed clock) (.invalid "invalid bounded XScope alert notification")
  putAlerts time (request.alerts.foldl (fun rows a => collect sha256 a rows) [])

def acknowledgeAlert (time : Int) (id actor : String) (request : Acknowledge) : AlertTx Unit := do
  Tx.reject (blank request.reason ∨ 1024 < request.reason.utf8ByteSize)
    (.invalid "bounded acknowledgement reason required")
  let found ← Tx.read fun s => s.alerts.get? id
  let row ← Tx.expect found .notFound
  if row.acknowledgedAt.isNone then
    Tx.write fun s => { s with
      alerts := s.alerts.put { row with acknowledgedAt := some time, acknowledgedBy := some actor }
      audits := ⟨actor, "alert.acknowledge", id, request.reason⟩ :: s.audits }
  else pure ()

/-! ## What a notification does -/

variable {sha256} {s s' : AlertStore} {time clock : Int} {id actor : String} {a : Alert}

/-- What one notification leaves under the id of its alert. -/
def joined (time : Int) (id : String) (a : Alert) : Option AlertRow → AlertRow
  | none => a.row time id
  | some old => if a.status = "resolved" ∧ old.state ≠ "resolved" then old.resolve time a.endsAt else old

theorem joined_state (old : Option AlertRow) : (joined time id a old).state = "resolved" ↔
    a.status = "resolved" ∨ ∃ row ∈ old, row.state = "resolved" := by
  cases old with
  | none => simp [joined, Alert.row]
  | some row =>
    simp only [joined]
    split
    · rename_i change
      simp [AlertRow.resolve, change.1]
    · rename_i same
      by_cases resolved : row.state = "resolved"
      · simp [resolved]
      · have firing : a.status ≠ "resolved" := fun h => same ⟨h, resolved⟩
        simp [resolved, firing]

theorem joined_acknowledged (row : AlertRow) :
    (joined time id a (some row)).acknowledgedBy = row.acknowledgedBy ∧
      (joined time id a (some row)).acknowledgedAt = row.acknowledgedAt := by
  simp only [joined]
  split
  · exact ⟨rfl, rfl⟩
  · exact ⟨rfl, rfl⟩

/-- A notification never fails, and what it changes is the row of its alert. -/
theorem putAlert_ok (time : Int) (id : String) (a : Alert) (s : AlertStore) :
    ∃ s', putAlert time (id, a) s = .ok ((), s') ∧
    s'.audits = s.audits ∧ ∀ k, s'.alerts.get? k = if id = k then some (joined time id a (s.alerts.get? id))
      else s.alerts.get? k := by
  cases found : s.alerts.get? id with
  | none =>
    obtain ⟨t, inserted⟩ := Table.insert?_of_none (r := a.row time id) found
    have here : t.get? id = some (a.row time id) := Table.get?_insert?_self inserted
    refine ⟨{ s with alerts := t }, ?_, rfl, ?_⟩
    · unfold putAlert
      simp only [Tx.write_bind, inserted, Option.getD_some, Tx.read_bind, here]
      rw [Tx.bind_of_ok (Tx.expect_some rfl), if_neg]
      · rfl
      · rintro ⟨resolved, firing⟩
        exact firing resolved
    · intro k
      exact Table.get?_insert? inserted k
  | some old =>
    have kept : s.alerts.insert? (a.row time id) = none := Table.insert?_none_iff.2 ⟨old, found⟩
    have own : old.id = id := Table.get?_key found
    by_cases change : a.status = "resolved" ∧ old.state ≠ "resolved"
    · refine ⟨{ s with alerts := s.alerts.put (old.resolve time a.endsAt) }, ?_, rfl, ?_⟩
      · unfold putAlert
        simp only [Tx.write_bind, kept, Option.getD_none, Tx.read_bind, found]
        rw [Tx.bind_of_ok (Tx.expect_some rfl), if_pos change]
        rfl
      · intro k
        rw [joined, if_pos change]
        exact Table.get?_put_at (show key (old.resolve time a.endsAt) = id from own) found k
    · refine ⟨s, ?_, rfl, ?_⟩
      · unfold putAlert
        simp only [Tx.write_bind, kept, Option.getD_none, Tx.read_bind, found]
        rw [Tx.bind_of_ok (Tx.expect_some rfl), if_neg change]
        rfl
      · intro k
        rw [joined, if_neg change]
        split
        · rename_i same
          rw [← same, found]
        · rfl

/-- A notification that an alert already has changes nothing. -/
theorem putAlert_again {row : AlertRow} (found : s.alerts.get? id = some row)
    (h : a.status = "resolved" → row.state = "resolved") :
    putAlert time (id, a) s = .ok ((), s) := by
  have kept : s.alerts.insert? (a.row time id) = none := Table.insert?_none_iff.2 ⟨row, found⟩
  unfold putAlert
  simp only [Tx.write_bind, kept, Option.getD_none, Tx.read_bind, found]
  rw [Tx.bind_of_ok (Tx.expect_some rfl), if_neg]
  · rfl
  · rintro ⟨resolved, firing⟩
    exact firing (h resolved)

end Xscope.Ops
